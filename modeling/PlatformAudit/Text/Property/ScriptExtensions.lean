import PlatformAudit.Text.Property.Row

/-!
# Script extensions

A character that is used with a few scripts belongs to each of them in this wider
sense, and to its own script only if that is one of them. A script that is not listed
here has the same characters in both senses.
-/

namespace PlatformAudit.Text.Property

/-- The scripts whose characters differ in the wider sense. -/
def scriptExtensions : List Row :=
  [{ names := ["adlm", "adlam"]
     parts := ["adlm"]
     own := ["61F 640 204F 2E41"] },
   { names := ["aghb", "caucasianalbanian"]
     parts := ["aghb"]
     own := ["304 331 35E"] },
   { names := ["arab", "arabic"]
     parts := ["arab"]
     own := ["60C 61B 61F 640 64B-655 670 204F 2E41 FD3E-FD3F 102E0-102FB"] },
   { names := ["armn", "armenian"]
     parts := ["armn"]
     own := ["308"] },
   { names := ["avst", "avestan"]
     parts := ["avst"]
     own := ["B7 2E30-2E31"] },
   { names := ["beng", "bengali"]
     parts := ["beng"]
     own := ["2BC 951-952 964-965 1CD0 1CD2 1CD5-1CD6 1CD8 1CE1 1CEA 1CED 1CF2 1CF5-1CF7",
             "A8F1"] },
   { names := ["bopo", "bopomofo"]
     parts := ["bopo"]
     own := ["2C7 2C9-2CB 2D9 3001-3003 3008-3011 3013-301F 302A-302D 3030 3037 30FB",
             "FE45-FE46 FF61-FF65"] },
   { names := ["bugi", "buginese"]
     parts := ["bugi"]
     own := ["A9CF"] },
   { names := ["buhd", "buhid"]
     parts := ["buhd"]
     own := ["1735-1736"] },
   { names := ["cakm", "chakma"]
     parts := ["cakm"]
     own := ["9E6-9EF 1040-1049"] },
   { names := ["cari", "carian"]
     parts := ["cari"]
     own := ["B7 205A 205D 2E31"] },
   { names := ["cher", "cherokee"]
     parts := ["cher"]
     own := ["300-302 304 30B-30C 323-324 330-331"] },
   { names := ["copt", "coptic", "qaac"]
     parts := ["copt"]
     own := ["B7 300 304-305 307 374-375 2E17 102E0-102FB"] },
   { names := ["cpmn", "cyprominoan"]
     parts := ["cpmn"]
     own := ["10100-10101"] },
   { names := ["cprt", "cypriot"]
     parts := ["cprt"]
     own := ["10100-10102 10107-10133 10137-1013F"] },
   { names := ["cyrl", "cyrillic"]
     parts := ["cyrl"]
     own := ["2BC 300-302 304-308/2 30B 311 485-486 1DF8 2E43"] },
   { names := ["deva", "devanagari"]
     parts := ["deva"]
     own := ["2BC 951-952 964-965 1CD0-1CF6 1CF8-1CF9 20F0 A830-A839"] },
   { names := ["dogr", "dogra"]
     parts := ["dogr"]
     own := ["964-96F A830-A839"] },
   { names := ["dupl", "duployan"]
     parts := ["dupl"]
     own := ["B7 307-308 30A 323-324 2E3C 1BCA0-1BCA3"] },
   { names := ["elba", "elbasan"]
     parts := ["elba"]
     own := ["B7 305"] },
   { names := ["ethi", "ethiopic"]
     parts := ["ethi"]
     own := ["30E"] },
   { names := ["geor", "georgian"]
     parts := ["geor"]
     own := ["B7 589 10FB 205A 2E31"] },
   { names := ["glag", "glagolitic"]
     parts := ["glag"]
     own := ["B7 303 305 484 487 589 10FB 205A 2E43 A66F"] },
   { names := ["gong", "gunjalagondi"]
     parts := ["gong"]
     own := ["B7 964-965"] },
   { names := ["gonm", "masaramgondi"]
     parts := ["gonm"]
     own := ["964-965"] },
   { names := ["goth", "gothic"]
     parts := ["goth"]
     own := ["B7 304-305 308 331"] },
   { names := ["gran", "grantha"]
     parts := ["gran"]
     own := ["951-952 964-965 BE6-BF3 1CD0 1CD2-1CD3 1CF2-1CF4 1CF8-1CF9 20F0 1133B",
             "11FD0-11FD1 11FD3"] },
   { names := ["grek", "greek"]
     parts := ["grek"]
     own := ["B7 300-301 304-308/2 313 342 345 374 1DC0-1DC1 205D"] },
   { names := ["gujr", "gujarati"]
     parts := ["gujr"]
     own := ["951-952 964-965 A830-A839"] },
   { names := ["guru", "gurmukhi"]
     parts := ["guru"]
     own := ["951-952 964-965 A830-A839"] },
   { names := ["hang", "hangul"]
     parts := ["hang"]
     own := ["3001-3003 3008-3011 3013-301F 3030 3037 30FB FE45-FE46 FF61-FF65"] },
   { names := ["hani", "han"]
     parts := ["hani"]
     own := ["B7 2FF0-2FFF 3001-3003 3006 3008-3011 3013-301F 302A-302D 3030 3037 303C-303F",
             "30FB 3190-319F 31C0-31E5 31EF 3220-3247 3280-32B0 32C0-32CB 32FF 3358-3370",
             "337B-337F 33E0-33FE A700-A707 FE45-FE46 FF61-FF65 1D360-1D371 1F250-1F251"] },
   { names := ["hano", "hanunoo"]
     parts := ["hano"]
     own := ["1735-1736"] },
   { names := ["hebr", "hebrew"]
     parts := ["hebr"]
     own := ["307-308"] },
   { names := ["hira", "hiragana"]
     parts := ["hira"]
     own := ["3001-3003 3008-3011 3013-301F 3030-3035 3037 303C-303D 3099-309C 30A0",
             "30FB-30FC FE45-FE46 FF61-FF65 FF70 FF9E-FF9F"] },
   { names := ["hung", "oldhungarian"]
     parts := ["hung"]
     own := ["205A 205D 2E31 2E41"] },
   { names := ["java", "javanese"]
     parts := ["java"]
     own := ["A9CF"] },
   { names := ["kali", "kayahli"]
     parts := ["kali"]
     own := ["A92E"] },
   { names := ["kana", "katakana"]
     parts := ["kana"]
     own := ["305 323 3001-3003 3008-3011 3013-301F 3030-3035 3037 303C-303D 3099-309C 30A0",
             "30FB-30FC FE45-FE46 FF61-FF65 FF70 FF9E-FF9F"] },
   { names := ["khoj", "khojki"]
     parts := ["khoj"]
     own := ["AE6-AEF A830-A839"] },
   { names := ["knda", "kannada"]
     parts := ["knda"]
     own := ["951-952 964-965 1CD0 1CD2-1CD3 1CDA 1CF2 1CF4 A830-A835"] },
   { names := ["kthi", "kaithi"]
     parts := ["kthi"]
     own := ["966-96F 2E31 A830-A839"] },
   { names := ["latn", "latin"]
     parts := ["latn"]
     own := ["B7 2BC 2C7 2C9-2CB 2CD 2D7 2D9 300-30E 310-311 313 320 323-325 32D-32E 330-331",
             "358 35E 363-36F 485-486 951-952 10FB 1DF8 202F 20F0 2E17 A700-A707 A92E"] },
   { names := ["limb", "limbu"]
     parts := ["limb"]
     own := ["965"] },
   { names := ["lina", "lineara"]
     parts := ["lina"]
     own := ["10107-10133"] },
   { names := ["linb", "linearb"]
     parts := ["linb"]
     own := ["10100-10102 10107-10133 10137-1013F"] },
   { names := ["lisu"]
     parts := ["lisu"]
     own := ["2BC 2CD 300A-300B"] },
   { names := ["lyci", "lycian"]
     parts := ["lyci"]
     own := ["205A"] },
   { names := ["lydi", "lydian"]
     parts := ["lydi"]
     own := ["B7 2E31"] },
   { names := ["mahj", "mahajani"]
     parts := ["mahj"]
     own := ["B7 964-96F A830-A839"] },
   { names := ["mand", "mandaic"]
     parts := ["mand"]
     own := ["640"] },
   { names := ["mani", "manichaean"]
     parts := ["mani"]
     own := ["640"] },
   { names := ["mero", "meroitichieroglyphs"]
     parts := ["mero"]
     own := ["205D"] },
   { names := ["mlym", "malayalam"]
     parts := ["mlym"]
     own := ["951-952 964-965 1CDA 1CF2 A830-A832"] },
   { names := ["modi"]
     parts := ["modi"]
     own := ["A830-A839"] },
   { names := ["mong", "mongolian"]
     parts := ["mong"]
     own := ["1802-1803 1805 202F 3001-3002 3008-300B"] },
   { names := ["mult", "multani"]
     parts := ["mult"]
     own := ["A66-A6F"] },
   { names := ["mymr", "myanmar"]
     parts := ["mymr"]
     own := ["A92E"] },
   { names := ["nand", "nandinagari"]
     parts := ["nand"]
     own := ["964-965 CE6-CEF 1CE9 1CF2 1CFA A830-A835"] },
   { names := ["nkoo", "nko"]
     parts := ["nkoo"]
     own := ["60C 61B 61F FD3E-FD3F"] },
   { names := ["orkh", "oldturkic"]
     parts := ["orkh"]
     own := ["205A 2E30"] },
   { names := ["orya", "oriya"]
     parts := ["orya"]
     own := ["951-952 964-965 1CDA 1CF2"] },
   { names := ["osge", "osage"]
     parts := ["osge"]
     own := ["301 304 30B 358"] },
   { names := ["ougr", "olduyghur"]
     parts := ["ougr"]
     own := ["640 10AF2"] },
   { names := ["perm", "oldpermic"]
     parts := ["perm"]
     own := ["B7 300 306-308 313 483"] },
   { names := ["phag", "phagspa"]
     parts := ["phag"]
     own := ["1802-1803 1805 202F 3002"] },
   { names := ["phlp", "psalterpahlavi"]
     parts := ["phlp"]
     own := ["640"] },
   { names := ["rohg", "hanifirohingya"]
     parts := ["rohg"]
     own := ["60C 61B 61F 640 6D4"] },
   { names := ["runr", "runic"]
     parts := ["runr"]
     own := ["16EB-16ED"] },
   { names := ["samr", "samaritan"]
     parts := ["samr"]
     own := ["2E31"] },
   { names := ["shaw", "shavian"]
     parts := ["shaw"]
     own := ["B7"] },
   { names := ["shrd", "sharada"]
     parts := ["shrd"]
     own := ["951 1CD7 1CD9 1CDC-1CDD 1CE0 A830-A835 A838"] },
   { names := ["sind", "khudawadi"]
     parts := ["sind"]
     own := ["964-965 A830-A839"] },
   { names := ["sinh", "sinhala"]
     parts := ["sinh"]
     own := ["964-965 1CF2"] },
   { names := ["sogd", "sogdian"]
     parts := ["sogd"]
     own := ["640"] },
   { names := ["sylo", "sylotinagri"]
     parts := ["sylo"]
     own := ["964-965 9E6-9EF"] },
   { names := ["syrc", "syriac"]
     parts := ["syrc"]
     own := ["303-304 307-308 30A 320 323-325 32D-32E 330 60C 61B-61C 61F 640 64B-655 670",
             "1DF8 1DFA"] },
   { names := ["tagb", "tagbanwa"]
     parts := ["tagb"]
     own := ["1735-1736"] },
   { names := ["takr", "takri"]
     parts := ["takr"]
     own := ["964-965 A830-A839"] },
   { names := ["tale", "taile"]
     parts := ["tale"]
     own := ["300-301 307-308 30C 1040-1049"] },
   { names := ["taml", "tamil"]
     parts := ["taml"]
     own := ["951-952 964-965 1CDA A8F3 11301 11303 1133B-1133C"] },
   { names := ["tang", "tangut"]
     parts := ["tang"]
     own := ["2FF0-2FFF 31EF"] },
   { names := ["telu", "telugu"]
     parts := ["telu"]
     own := ["951-952 964-965 1CDA 1CF2"] },
   { names := ["tfng", "tifinagh"]
     parts := ["tfng"]
     own := ["302 304 306-309 323"] },
   { names := ["tglg", "tagalog"]
     parts := ["tglg"]
     own := ["1735-1736"] },
   { names := ["thaa", "thaana"]
     parts := ["thaa"]
     own := ["60C 61B-61C 61F 660-669 FDF2 FDFD"] },
   { names := ["thai"]
     parts := ["thai"]
     own := ["2BC 2D7 303 331"] },
   { names := ["tibt", "tibetan"]
     parts := ["tibt"]
     own := ["3008-300B"] },
   { names := ["tirh", "tirhuta"]
     parts := ["tirh"]
     own := ["951-952 964-965 1CF2 A830-A839"] },
   { names := ["toto"]
     parts := ["toto"]
     own := ["2BC"] },
   { names := ["yezi", "yezidi"]
     parts := ["yezi"]
     own := ["60C 61B 61F 660-669"] },
   { names := ["yiii", "yi"]
     parts := ["yiii"]
     own := ["3001-3002 3008-3011 3014-301B 30FB FF61-FF65"] },
   { names := ["zinh", "inherited", "qaai"]
     parts := ["zinh"]
     holes := ["300-30E 310-311 313 320 323-325 32D-32E 330-331 342 345 358 35E 363-36F",
               "485-486 64B-655 670 951-952 1CD0-1CD2 1CD4-1CE0 1CE2-1CE8 1CED 1CF4",
               "1CF8-1CF9 1DC0-1DC1 1DF8 1DFA 20F0 302A-302D 3099-309A 102E0 1133B"] },
   { names := ["zyyy", "common"]
     parts := ["zyyy"]
     holes := ["B7 2BC 2C7 2C9-2CB 2CD 2D7 2D9 374 60C 61B 61F 640 964-965 10FB 16EB-16ED",
               "1735-1736 1802-1803 1805 1CD3 1CE1 1CE9-1CEC 1CEE-1CF3 1CF5-1CF7 1CFA 202F",
               "204F 205A 205D 2E17 2E30-2E31 2E3C 2E41 2E43 2FF0-2FFF 3001-3003 3006",
               "3008-3011 3013-301F 3030-3035 3037 303C-303F 309B-309C 30A0 30FB-30FC",
               "3190-319F 31C0-31E5 31EF 3220-3247 3280-32B0 32C0-32CB 32FF 3358-3370",
               "337B-337F 33E0-33FE A700-A707 A830-A839 A92E A9CF FD3E-FD3F FE45-FE46",
               "FF61-FF65 FF70 FF9E-FF9F 10100-10102 10107-10133 10137-1013F 102E1-102FB",
               "1BCA0-1BCA3 1D360-1D371 1F250-1F251"] },
   { names := ["gara", "garay"]
     parts := ["gara"]
     own := ["60C 61B 61F"] },
   { names := ["gukh", "gurungkhema"]
     parts := ["gukh"]
     own := ["965"] },
   { names := ["onao", "olonal"]
     parts := ["onao"]
     own := ["964-965"] },
   { names := ["sunu", "sunuwar"]
     parts := ["sunu"]
     own := ["300-301 303 30D 310 32D 331"] },
   { names := ["todr", "todhri"]
     parts := ["todr"]
     own := ["301 304 307 311 313 35E"] },
   { names := ["tutg", "tulutigalari"]
     parts := ["tutg"]
     own := ["CE6-CEF 1CF2 1CF4 A830-A835 A8F1"] }]

end PlatformAudit.Text.Property
