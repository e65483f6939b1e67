import PlatformAudit.Text.Property.Row

/-!
# Classes for text segmentation

The classes by which a text is divided into the characters that a reader sees, into
words and into sentences. In each of the three divisions a character has at most one
class.
-/

namespace PlatformAudit.Text.Property

/-- The classes of the division into characters that a reader sees. -/
def graphemeBreaks : List Row :=
  [{ names := ["cr"]
     own := ["D"] },
   { names := ["lf"]
     own := ["A"] },
   { names := ["control", "cn"]
     parts := ["cc", "cf", "zl", "zp"]
     holes := ["A D 600-605 6DD 70F 890-891 8E2 200C-200D 110BD 110CD E0020-E007F"]
     own := ["2065 FFF0-FFF8 E0000 E0002-E001F E0080-E00FF E01F0-E0FFF"] },
   { names := ["extend", "ex"]
     parts := ["graphemeextend", "emojimodifier"] },
   { names := ["zwj"]
     own := ["200D"] },
   { names := ["prepend", "pp"]
     own := ["600-605 6DD 70F 890-891 8E2 D4E 110BD 110CD 111C2-111C3 113D1 1193F 11941",
             "11A3A 11A84-11A89 11D46 11F02"] },
   { names := ["spacingmark", "sm"]
     parts := ["mc"]
     lacking := ["graphemeextend"]
     holes := ["102B-102C 1038 1062-1064 1067-106D 1083 1087-108C 108F 109A-109C 1A61",
               "1A63-1A64 AA7B AA7D 11720-11721"]
     own := ["E33 EB3"] },
   { names := ["regionalindicator", "ri"]
     parts := ["regionalindicator"] },
   { names := ["l"]
     own := ["1100-115F A960-A97C"] },
   { names := ["v"]
     own := ["1160-11A7 D7B0-D7C6 16D63 16D67-16D6A"] },
   { names := ["t"]
     own := ["11A8-11FF D7CB-D7FB"] },
   { names := ["lv"]
     own := ["AC00-D788/1C"] },
   { names := ["lvt"]
     parts := ["hang"]
     holes := ["1100-11FF 302E-302F 3131-318E 3200-321E 3260-327E A960-A97C AC00-D788/1C",
               "D7B0-D7C6 D7CB-D7FB FFA0-FFBE FFC2-FFC7 FFCA-FFCF FFD2-FFD7 FFDA-FFDC"] }]

/-- The classes of the division into words. -/
def wordBreaks : List Row :=
  [{ names := ["cr"]
     own := ["D"] },
   { names := ["lf"]
     own := ["A"] },
   { names := ["newline", "nl"]
     own := ["B-C 85 2028-2029"] },
   { names := ["extend"]
     parts := ["graphemeextend", "mc", "emojimodifier"] },
   { names := ["zwj"]
     own := ["200D"] },
   { names := ["format", "fo"]
     parts := ["cf"]
     holes := ["600-605 6DD 70F 890-891 8E2 200B-200D 110BD 110CD E0020-E007F"] },
   { names := ["katakana", "ka"]
     parts := ["kana"]
     own := ["3031-3035 309B-309C 30A0 30FC FF70"] },
   { names := ["hebrewletter", "hl"]
     parts := ["hebr"]
     lacking := ["mn", "pd", "po", "sm"] },
   { names := ["aletter", "le"]
     parts := ["alphabetic"]
     lacking := ["ideographic", "kana", "hebr", "graphemeextend", "mc"]
     holes := ["E01-E30 E32-E33 E40-E46 E81-E82 E84 E86-E8A E8C-EA3 EA5 EA7-EB0 EB2-EB3 EBD",
               "EC0-EC4 EC6 EDC-EDF 1000-102A 103F 1050-1055 105A-105D 1061 1065-1066",
               "106E-1070 1075-1081 108E 1780-17B3 17D7 17DC 1950-196D 1970-1974 1980-19AB",
               "19B0-19C9 1A20-1A54 1AA7 3031-3035 3041-3096 309D-309F 30FC A9E0-A9E4",
               "A9E6-A9EF A9FA-A9FE AA60-AA76 AA7A AA7E-AAAF AAB1 AAB5-AAB6 AAB9-AABD AAC0",
               "AAC2 AADB-AADD FF70 11700-1171A 11740-11746 1B001-1B11F 1B132 1B150-1B152"]
     own := ["2C2-2C5 2D2-2D7 2DE-2DF 2E5-2EB 2ED 2EF-2FF 55A-55C 55E 58A 5F3 70F A708-A716",
             "A720-A721 A789-A78A AB5B"] },
   { names := ["singlequote", "sq"]
     own := ["27"] },
   { names := ["doublequote", "dq"]
     own := ["22"] },
   { names := ["midnumlet", "mb"]
     own := ["2E 2018-2019 2024 FE52 FF07 FF0E"] },
   { names := ["midletter", "ml"]
     own := ["3A B7 387 55F 5F4 2027 FE13 FE55 FF1A"] },
   { names := ["midnum", "mn"]
     own := ["2C 3B 37E 589 60C-60D 66C 7F8 2044 FE50 FE54 FF0C FF1B"] },
   { names := ["numeric", "nu"]
     parts := ["nd"]
     own := ["600-605 66B 6DD 890-891 8E2 19DA 110BD 110CD"] },
   { names := ["extendnumlet", "ex"]
     parts := ["pc"]
     own := ["202F"] },
   { names := ["regionalindicator", "ri"]
     parts := ["regionalindicator"] },
   { names := ["wsegspace"]
     own := ["20 1680 2000-2006 2008-200A 205F 3000"] }]

/-- The classes of the division into sentences. -/
def sentenceBreaks : List Row :=
  [{ names := ["cr"]
     own := ["D"] },
   { names := ["lf"]
     own := ["A"] },
   { names := ["extend", "ex"]
     parts := ["graphemeextend", "mc"]
     own := ["200D"] },
   { names := ["sep", "se"]
     own := ["85 2028-2029"] },
   { names := ["format", "fo"]
     parts := ["cf"]
     holes := ["600-605 6DD 890-891 8E2 200C-200D 110BD 110CD E0020-E007F"] },
   { names := ["sp"]
     parts := ["whitespace"]
     holes := ["A D 85 2028-2029"] },
   { names := ["lower", "lo"]
     parts := ["lowercase"]
     lacking := ["graphemeextend"]
     holes := ["10D0-10FA 10FD-10FF"] },
   { names := ["upper", "up"]
     parts := ["uppercase", "lt"]
     holes := ["1C90-1CBA 1CBD-1CBF"] },
   { names := ["oletter", "le"]
     parts := ["alphabetic"]
     lacking := ["lowercase", "uppercase", "lt", "graphemeextend", "mc"]
     own := ["5F3 10D0-10FA 10FD-10FF 1C90-1CBA 1CBD-1CBF"] },
   { names := ["numeric", "nu"]
     parts := ["nd"]
     own := ["600-605 66B-66C 6DD 890-891 8E2 19DA 110BD 110CD"] },
   { names := ["aterm", "at"]
     own := ["2E 2024 FE52 FF0E"] },
   { names := ["scontinue", "sc"]
     own := ["2C-2D 3A-3B 37E 55D 60C-60D 7F8 1802 1808 2013-2014 3001 FE10-FE11 FE13-FE14",
             "FE31-FE32 FE50-FE51 FE54-FE55 FE58 FE63 FF0C-FF0D FF1A-FF1B FF64"] },
   { names := ["sterm", "st"]
     parts := ["sentenceterminal"]
     holes := ["2E 2024 FE52 FF0E"] },
   { names := ["close", "cl"]
     parts := ["ps", "pe", "pi", "pf", "quotationmark"]
     holes := ["FF02 FF07"]
     own := ["275B-2760 2E00-2E01 2E06-2E08 2E0B 1F676-1F678"] }]

end PlatformAudit.Text.Property
