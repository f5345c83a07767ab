/-
Module: TrackBrowser.Unicode.Script
Purpose: The script of every character and the scripts that share it.
-/
import TrackBrowser.Unicode.RunTable

/-!
Scripts are known by codes of four letters.  A character has one script, and some characters are
also used by other scripts: `Script.extensions` lists all scripts of a character.
-/

namespace TrackBrowser.Unicode

/-- A script, given by its four-letter code. -/
structure Script where
  code : String
  deriving DecidableEq, Repr, Inhabited

namespace Script

/-- The codes of the scripts with the other names of each, in lower case and without
separators. -/
def names : List (String × List String) :=
  [("", [""]), ("Adlm", ["adlm", "adlam"]), ("Aghb", ["aghb", "caucasianalbanian"]),
   ("Ahom", ["ahom"]), ("Arab", ["arab", "arabic"]), ("Armi", ["armi", "imperialaramaic"]),
   ("Armn", ["armn", "armenian"]), ("Avst", ["avst", "avestan"]),
   ("Bali", ["bali", "balinese"]), ("Bamu", ["bamu", "bamum"]),
   ("Bass", ["bass", "bassavah"]), ("Batk", ["batk", "batak"]), ("Beng", ["beng", "bengali"]),
   ("Bhks", ["bhks", "bhaiksuki"]), ("Bopo", ["bopo", "bopomofo"]),
   ("Brah", ["brah", "brahmi"]), ("Brai", ["brai", "braille"]),
   ("Bugi", ["bugi", "buginese"]), ("Buhd", ["buhd", "buhid"]), ("Cakm", ["cakm", "chakma"]),
   ("Cans", ["cans", "canadianaboriginal"]), ("Cari", ["cari", "carian"]), ("Cham", ["cham"]),
   ("Cher", ["cher", "cherokee"]), ("Chrs", ["chrs", "chorasmian"]),
   ("Copt", ["copt", "coptic", "qaac"]), ("Cpmn", ["cpmn", "cyprominoan"]),
   ("Cprt", ["cprt", "cypriot"]), ("Cyrl", ["cyrl", "cyrillic"]),
   ("Deva", ["deva", "devanagari"]), ("Diak", ["diak", "divesakuru"]),
   ("Dogr", ["dogr", "dogra"]), ("Dsrt", ["dsrt", "deseret"]), ("Dupl", ["dupl", "duployan"]),
   ("Egyp", ["egyp", "egyptianhieroglyphs"]), ("Elba", ["elba", "elbasan"]),
   ("Elym", ["elym", "elymaic"]), ("Ethi", ["ethi", "ethiopic"]), ("Gara", ["gara", "garay"]),
   ("Geor", ["geor", "georgian"]), ("Glag", ["glag", "glagolitic"]),
   ("Gong", ["gong", "gunjalagondi"]), ("Gonm", ["gonm", "masaramgondi"]),
   ("Goth", ["goth", "gothic"]), ("Gran", ["gran", "grantha"]), ("Grek", ["grek", "greek"]),
   ("Gujr", ["gujr", "gujarati"]), ("Gukh", ["gukh", "gurungkhema"]),
   ("Guru", ["guru", "gurmukhi"]), ("Hang", ["hang", "hangul"]), ("Hani", ["hani", "han"]),
   ("Hano", ["hano", "hanunoo"]), ("Hatr", ["hatr", "hatran"]), ("Hebr", ["hebr", "hebrew"]),
   ("Hira", ["hira", "hiragana"]), ("Hluw", ["hluw", "anatolianhieroglyphs"]),
   ("Hmng", ["hmng", "pahawhhmong"]), ("Hmnp", ["hmnp", "nyiakengpuachuehmong"]),
   ("Hung", ["hung", "oldhungarian"]), ("Ital", ["ital", "olditalic"]),
   ("Java", ["java", "javanese"]), ("Kali", ["kali", "kayahli"]),
   ("Kana", ["kana", "katakana"]), ("Kawi", ["kawi"]), ("Khar", ["khar", "kharoshthi"]),
   ("Khmr", ["khmr", "khmer"]), ("Khoj", ["khoj", "khojki"]),
   ("Kits", ["kits", "khitansmallscript"]), ("Knda", ["knda", "kannada"]),
   ("Krai", ["krai", "kiratrai"]), ("Kthi", ["kthi", "kaithi"]),
   ("Lana", ["lana", "taitham"]), ("Laoo", ["laoo", "lao"]), ("Latn", ["latn", "latin"]),
   ("Lepc", ["lepc", "lepcha"]), ("Limb", ["limb", "limbu"]), ("Lina", ["lina", "lineara"]),
   ("Linb", ["linb", "linearb"]), ("Lisu", ["lisu"]), ("Lyci", ["lyci", "lycian"]),
   ("Lydi", ["lydi", "lydian"]), ("Mahj", ["mahj", "mahajani"]),
   ("Maka", ["maka", "makasar"]), ("Mand", ["mand", "mandaic"]),
   ("Mani", ["mani", "manichaean"]), ("Marc", ["marc", "marchen"]),
   ("Medf", ["medf", "medefaidrin"]), ("Mend", ["mend", "mendekikakui"]),
   ("Merc", ["merc", "meroiticcursive"]), ("Mero", ["mero", "meroitichieroglyphs"]),
   ("Mlym", ["mlym", "malayalam"]), ("Modi", ["modi"]), ("Mong", ["mong", "mongolian"]),
   ("Mroo", ["mroo", "mro"]), ("Mtei", ["mtei", "meeteimayek"]),
   ("Mult", ["mult", "multani"]), ("Mymr", ["mymr", "myanmar"]),
   ("Nagm", ["nagm", "nagmundari"]), ("Nand", ["nand", "nandinagari"]),
   ("Narb", ["narb", "oldnortharabian"]), ("Nbat", ["nbat", "nabataean"]), ("Newa", ["newa"]),
   ("Nkoo", ["nkoo", "nko"]), ("Nshu", ["nshu", "nushu"]), ("Ogam", ["ogam", "ogham"]),
   ("Olck", ["olck", "olchiki"]), ("Onao", ["onao", "olonal"]),
   ("Orkh", ["orkh", "oldturkic"]), ("Orya", ["orya", "oriya"]), ("Osge", ["osge", "osage"]),
   ("Osma", ["osma", "osmanya"]), ("Ougr", ["ougr", "olduyghur"]),
   ("Palm", ["palm", "palmyrene"]), ("Pauc", ["pauc", "paucinhau"]),
   ("Perm", ["perm", "oldpermic"]), ("Phag", ["phag", "phagspa"]),
   ("Phli", ["phli", "inscriptionalpahlavi"]), ("Phlp", ["phlp", "psalterpahlavi"]),
   ("Phnx", ["phnx", "phoenician"]), ("Plrd", ["plrd", "miao"]),
   ("Prti", ["prti", "inscriptionalparthian"]), ("Rjng", ["rjng", "rejang"]),
   ("Rohg", ["rohg", "hanifirohingya"]), ("Runr", ["runr", "runic"]),
   ("Samr", ["samr", "samaritan"]), ("Sarb", ["sarb", "oldsoutharabian"]),
   ("Saur", ["saur", "saurashtra"]), ("Sgnw", ["sgnw", "signwriting"]),
   ("Shaw", ["shaw", "shavian"]), ("Shrd", ["shrd", "sharada"]),
   ("Sidd", ["sidd", "siddham"]), ("Sind", ["sind", "khudawadi"]),
   ("Sinh", ["sinh", "sinhala"]), ("Sogd", ["sogd", "sogdian"]),
   ("Sogo", ["sogo", "oldsogdian"]), ("Sora", ["sora", "sorasompeng"]),
   ("Soyo", ["soyo", "soyombo"]), ("Sund", ["sund", "sundanese"]),
   ("Sunu", ["sunu", "sunuwar"]), ("Sylo", ["sylo", "sylotinagri"]),
   ("Syrc", ["syrc", "syriac"]), ("Tagb", ["tagb", "tagbanwa"]), ("Takr", ["takr", "takri"]),
   ("Tale", ["tale", "taile"]), ("Talu", ["talu", "newtailue"]), ("Taml", ["taml", "tamil"]),
   ("Tang", ["tang", "tangut"]), ("Tavt", ["tavt", "taiviet"]), ("Telu", ["telu", "telugu"]),
   ("Tfng", ["tfng", "tifinagh"]), ("Tglg", ["tglg", "tagalog"]),
   ("Thaa", ["thaa", "thaana"]), ("Thai", ["thai"]), ("Tibt", ["tibt", "tibetan"]),
   ("Tirh", ["tirh", "tirhuta"]), ("Tnsa", ["tnsa", "tangsa"]), ("Todr", ["todr", "todhri"]),
   ("Toto", ["toto"]), ("Tutg", ["tutg", "tulutigalari"]), ("Ugar", ["ugar", "ugaritic"]),
   ("Vaii", ["vaii", "vai"]), ("Vith", ["vith", "vithkuqi"]),
   ("Wara", ["wara", "warangciti"]), ("Wcho", ["wcho", "wancho"]),
   ("Xpeo", ["xpeo", "oldpersian"]), ("Xsux", ["xsux", "cuneiform"]),
   ("Yezi", ["yezi", "yezidi"]), ("Yiii", ["yiii", "yi"]),
   ("Zanb", ["zanb", "zanabazarsquare"]), ("Zinh", ["zinh", "inherited", "qaai"]),
   ("Zyyy", ["zyyy", "common"])]

/-- The runs of equal script, in the order of code points. -/
def table : RunTable String :=
  .ofLines 4
    ["41Zyyy1aLatn6Zyyy1aLatn2fZyyy1LatnfZyyy1Latn5Zyyy17Latn1Zyyy1fLatn1Zyyy1c1Latn27Zyyy5Latn",
    "5Zyyy2Bopo14Zyyy70Zinh4Grek1Zyyy3Grek2Zzzz4Grek1Zyyy1Grek4Zzzz1Grek1Zyyy1Grek1Zyyy3Grek",
    "1Zzzz1Grek1Zzzz14Grek1Zzzz3fGrekeCopt10Grek85Cyrl2Zinha9Cyrl1Zzzz26Armn2Zzzz32Armn2Zzzz",
    "3Armn1Zzzz37Hebr8Zzzz1bHebr4Zzzz6HebrbZzzz5Arab1Zyyy6Arab1ZyyyeArab1Zyyy3Arab1Zyyy20Arab",
    "1ZyyyaArabbZinh1aArab1Zinh6cArab1Zyyy22ArabeSyrc1Zzzz3cSyrc2Zzzz3Syrc30Arab32ThaaeZzzz",
    "3bNkoo2Zzzz3Nkoo2eSamr2ZzzzfSamr1Zzzz1cMand2Zzzz1Mand1ZzzzbSyrc5Zzzz1fArab1Zzzz2Arab5Zzzz",
    "4bArab1Zyyy1dArab51Deva4ZinhfDeva2Zyyy1aDeva4Beng1Zzzz8Beng2Zzzz2Beng2Zzzz16Beng1Zzzz7Beng",
    "1Zzzz1Beng3Zzzz4Beng2Zzzz9Beng2Zzzz2Beng2Zzzz4Beng8Zzzz1Beng4Zzzz2Beng1Zzzz5Beng2Zzzz",
    "19Beng2Zzzz3Guru1Zzzz6Guru4Zzzz2Guru2Zzzz16Guru1Zzzz7Guru1Zzzz2Guru1Zzzz2Guru1Zzzz2Guru",
    "2Zzzz1Guru1Zzzz5Guru4Zzzz2Guru2Zzzz3Guru3Zzzz1Guru7Zzzz4Guru1Zzzz1Guru7Zzzz11GuruaZzzz",
    "3Gujr1Zzzz9Gujr1Zzzz3Gujr1Zzzz16Gujr1Zzzz7Gujr1Zzzz2Gujr1Zzzz5Gujr2ZzzzaGujr1Zzzz3Gujr",
    "1Zzzz3Gujr2Zzzz1GujrfZzzz4Gujr2ZzzzcGujr7Zzzz7Gujr1Zzzz3Orya1Zzzz8Orya2Zzzz2Orya2Zzzz",
    "16Orya1Zzzz7Orya1Zzzz2Orya1Zzzz5Orya2Zzzz9Orya2Zzzz2Orya2Zzzz3Orya7Zzzz3Orya4Zzzz2Orya",
    "1Zzzz5Orya2Zzzz12OryaaZzzz2Taml1Zzzz6Taml3Zzzz3Taml1Zzzz4Taml3Zzzz2Taml1Zzzz1Taml1Zzzz",
    "2Taml3Zzzz2Taml3Zzzz3Taml3ZzzzcTaml4Zzzz5Taml3Zzzz3Taml1Zzzz4Taml2Zzzz1Taml6Zzzz1TamleZzzz",
    "15Taml5ZzzzdTelu1Zzzz3Telu1Zzzz17Telu1Zzzz10Telu2Zzzz9Telu1Zzzz3Telu1Zzzz4Telu7Zzzz2Telu",
    "1Zzzz3Telu2Zzzz1Telu2Zzzz4Telu2ZzzzaTelu7Zzzz9TeludKnda1Zzzz3Knda1Zzzz17Knda1ZzzzaKnda",
    "1Zzzz5Knda2Zzzz9Knda1Zzzz3Knda1Zzzz4Knda7Zzzz2Knda6Zzzz2Knda1Zzzz4Knda2ZzzzaKnda1Zzzz3Knda",
    "cZzzzdMlym1Zzzz3Mlym1Zzzz33Mlym1Zzzz3Mlym1Zzzz6Mlym4Zzzz10Mlym2Zzzz1aMlym1Zzzz3Sinh1Zzzz",
    "12Sinh3Zzzz18Sinh1Zzzz9Sinh1Zzzz1Sinh2Zzzz7Sinh3Zzzz1Sinh4Zzzz6Sinh1Zzzz1Sinh1Zzzz8Sinh",
    "6ZzzzaSinh2Zzzz3SinhcZzzz3aThai4Zzzz1Zyyy1cThai25Zzzz2Laoo1Zzzz1Laoo1Zzzz5Laoo1Zzzz18Laoo",
    "1Zzzz1Laoo1Zzzz17Laoo2Zzzz5Laoo1Zzzz1Laoo1Zzzz7Laoo1ZzzzaLaoo2Zzzz4Laoo20Zzzz48Tibt1Zzzz",
    "24Tibt4Zzzz27Tibt1Zzzz24Tibt1ZzzzfTibt1Zzzz7Tibt4Zyyy2Tibt25Zzzza0Mymr26Geor1Zzzz1Geor",
    "5Zzzz1Geor2Zzzz2bGeor1Zyyy4Geor100Hang49Ethi1Zzzz4Ethi2Zzzz7Ethi1Zzzz1Ethi1Zzzz4Ethi2Zzzz",
    "29Ethi1Zzzz4Ethi2Zzzz21Ethi1Zzzz4Ethi2Zzzz7Ethi1Zzzz1Ethi1Zzzz4Ethi2ZzzzfEthi1Zzzz39Ethi",
    "1Zzzz4Ethi2Zzzz43Ethi2Zzzz20Ethi3Zzzz1aEthi6Zzzz56Cher2Zzzz6Cher2Zzzz280Cans1dOgam3Zzzz",
    "4bRunr3ZyyybRunr7Zzzz16Tglg9Zzzz1Tglg15Hano2Zyyy9Zzzz14BuhdcZzzzdTagb1Zzzz3Tagb1Zzzz2Tagb",
    "cZzzz5eKhmr2ZzzzaKhmr6ZzzzaKhmr6Zzzz2Mong2Zyyy1Mong1Zyyy14Mong6Zzzz59Mong7Zzzz2bMong5Zzzz",
    "46CansaZzzz1fLimb1ZzzzcLimb4ZzzzcLimb4Zzzz1Limb3ZzzzcLimb1eTale2Zzzz5TalebZzzz2cTalu4Zzzz",
    "1aTalu6ZzzzbTalu3Zzzz2Talu20Khmr1cBugi2Zzzz2Bugi3fLana1Zzzz1dLana2ZzzzbLana6ZzzzaLana6Zzzz",
    "eLana2Zzzz1fZinh31Zzzz4dBali1Zzzz32Bali40Sund34Batk8Zzzz4Batk38Lepc3ZzzzfLepc3Zzzz3Lepc",
    "30OlckbCyrl5Zzzz2bGeor2Zzzz3Geor8Sund8Zzzz3Zinh1ZyyydZinh1Zyyy7Zinh4Zyyy1Zinh6Zyyy1Zinh",
    "3Zyyy2Zinh1Zyyy5Zzzz26Latn5Grek1Cyrl31Latn5Grek4Latn5GrekdLatn1Cyrl46Latn1Grek40Zinh",
    "100Latn16Grek2Zzzz6Grek2Zzzz26Grek2Zzzz6Grek2Zzzz8Grek1Zzzz1Grek1Zzzz1Grek1Zzzz1Grek1Zzzz",
    "1fGrek2Zzzz35Grek1ZzzzfGrek1ZzzzeGrek2Zzzz6Grek1Zzzz13Grek2Zzzz3Grek1Zzzz9Grek1ZzzzcZyyy",
    "2Zinh57Zyyy1ZzzzbZyyy1Latn2ZzzzbZyyy1LatnfZyyy1ZzzzdLatn3Zzzz21ZyyyfZzzz21ZinhfZzzz26Zyyy",
    "1Grek3Zyyy2Latn6Zyyy1Latn1bZyyy1Latn11Zyyy29Latn3Zyyy4Zzzz29aZyyy16ZzzzbZyyy15Zzzz3a0Zyyy",
    "100Brai274Zyyy2Zzzz20Zyyy1Zzzz69Zyyy60Glag20Latn74Copt5Zzzz7Copt26Geor1Zzzz1Geor5Zzzz1Geor",
    "2Zzzz38Tfng7Zzzz2TfngeZzzz1Tfng17Ethi9Zzzz7Ethi1Zzzz7Ethi1Zzzz7Ethi1Zzzz7Ethi1Zzzz7Ethi",
    "1Zzzz7Ethi1Zzzz7Ethi1Zzzz7Ethi1Zzzz20Cyrl5eZyyy22Zzzz1aHani1Zzzz59HanicZzzzd6Hani1aZzzz",
    "15Zyyy1Hani1Zyyy1Hani19Zyyy9Hani4Zinh2Hang8Zyyy4Hani4Zyyy1Zzzz56Hira2Zzzz2Zinh2Zyyy3Hira",
    "1Zyyy5aKana2Zyyy3Kana5Zzzz2bBopo1Zzzz5eHang1Zzzz10Zyyy20Bopo26Zyyy9Zzzz1Zyyy10Kana1fHang",
    "1Zzzz40Zyyy1fHang51Zyyy2fKana1Zyyy58Kanaa8Zyyy19c0Hani40Zyyy5200Hani48dYiii3Zzzz37Yiii",
    "9Zzzz30Lisu12cVaii14Zzzz60Cyrl58Bamu8Zzzz22Zyyy66Latn3Zyyy43Latn2Zzzz2Latn1Zzzz1Latn1Zzzz",
    "8Latn15ZzzzeLatn2dSylo3ZzzzaZyyy6Zzzz38Phag8Zzzz46Saur8ZzzzcSaur6Zzzz20Deva2eKali1Zyyy",
    "1Kali24RjngbZzzz1Rjng1dHang3Zzzz4eJava1Zzzz1ZyyyaJava4Zzzz2Java1fMymr1Zzzz37Cham9ZzzzeCham",
    "2ZzzzaCham2Zzzz4Cham20Mymr43Tavt18Zzzz5Tavt17MteiaZzzz6Ethi2Zzzz6Ethi2Zzzz6Ethi9Zzzz7Ethi",
    "1Zzzz7Ethi1Zzzz2bLatn1Zyyy9Latn1Grek4Latn2Zyyy4Zzzz50Cher2eMtei2ZzzzaMtei6Zzzz2ba4Hang",
    "cZzzz17Hang4Zzzz31Hang2104Zzzz16eHani2Zzzz6aHani26Zzzz7LatncZzzz5Armn5Zzzz1aHebr1Zzzz5Hebr",
    "1Zzzz1Hebr1Zzzz2Hebr1Zzzz2Hebr1ZzzzaHebr73Arab10Zzzz16bArab2Zyyy50Arab2Zzzz36Arab7Zzzz",
    "1Arab20Zzzz10Arab10ZinhaZyyy6ZzzzeZinh2Cyrl23Zyyy1Zzzz13Zyyy1Zzzz4Zyyy4Zzzz5Arab1Zzzz",
    "87Arab2Zzzz1Zyyy1Zzzz20Zyyy1aLatn6Zyyy1aLatnbZyyyaKana1Zyyy2dKana2Zyyy1fHang3Zzzz6Hang",
    "2Zzzz6Hang2Zzzz6Hang2Zzzz3Hang3Zzzz7Zyyy1Zzzz7ZyyyaZzzz5Zyyy2ZzzzcLinb1Zzzz1aLinb1Zzzz",
    "13Linb1Zzzz2Linb1ZzzzfLinb2ZzzzeLinb22Zzzz7bLinb5Zzzz3Zyyy4Zzzz2dZyyy3Zzzz9Zyyy4fGrek1Zzzz",
    "dZyyy3Zzzz1Grek2fZzzz2dZyyy1Zinh82Zzzz1dLyci3Zzzz31CarifZzzz1Zinh1bZyyy4Zzzz24Ital9Zzzz",
    "3Ital1bGoth5Zzzz2bPerm5Zzzz1eUgar1Zzzz1Ugar24Xpeo4ZzzzeXpeo2aZzzz50Dsrt30Shaw1eOsma2Zzzz",
    "aOsma6Zzzz24Osge4Zzzz24Osge4Zzzz28Elba8Zzzz34AghbbZzzz1AghbbVith1ZzzzfVith1Zzzz7Vith1Zzzz",
    "2Vith1ZzzzbVith1ZzzzfVith1Zzzz7Vith1Zzzz2Vith3Zzzz34TodrcZzzz137Lina9Zzzz16LinaaZzzz8Lina",
    "18Zzzz6Latn1Zzzz2aLatn1Zzzz9Latn45Zzzz6Cprt2Zzzz1Cprt1Zzzz2cCprt1Zzzz2Cprt3Zzzz1Cprt2Zzzz",
    "1Cprt16Armi1Zzzz9Armi20Palm1fNbat8Zzzz9Nbat30Zzzz13Hatr1Zzzz2Hatr5Zzzz5Hatr1cPhnx3Zzzz",
    "1Phnx1aLydi5Zzzz1Lydi40Zzzz20Mero18Merc4Zzzz14Merc2Zzzz2eMerc4Khar1Zzzz2Khar5Zzzz8Khar",
    "1Zzzz3Khar1Zzzz1dKhar2Zzzz3Khar4ZzzzaKhar7Zzzz9Khar7Zzzz20Sarb20Narb20Zzzz27Mani4ZzzzcMani",
    "9Zzzz36Avst3Zzzz7Avst16Prti2Zzzz8Prti13Phli5Zzzz8Phli12Phlp7Zzzz4PhlpcZzzz7Phlp50Zzzz",
    "49Orkh37Zzzz33HungdZzzz33Hung7Zzzz6Hung28Rohg8ZzzzaRohg6Zzzz26Gara3Zzzz1dGara8Zzzz2Gara",
    "d0Zzzz1fArab1Zzzz2aYezi1Zzzz3Yezi2Zzzz2Yezi10Zzzz3Arab37Zzzz4Arab28Sogo8Zzzz2aSogd16Zzzz",
    "1aOugr26Zzzz1cChrs14Zzzz17Elym9Zzzz4eBrah4Zzzz24Brah9Zzzz1Brah43KthiaZzzz1Kthi2Zzzz19Sora",
    "7ZzzzaSora6Zzzz35Cakm1Zzzz12Cakm8Zzzz27Mahj9Zzzz60Shrd1Zzzz14SinhbZzzz12Khoj1Zzzz2fKhoj",
    "3eZzzz7Mult1Zzzz1Mult1Zzzz4Mult1ZzzzfMult1ZzzzbMult6Zzzz3bSind5ZzzzaSind6Zzzz4Gran1Zzzz",
    "8Gran2Zzzz2Gran2Zzzz16Gran1Zzzz7Gran1Zzzz2Gran1Zzzz5Gran1Zzzz1Zinh9Gran2Zzzz2Gran2Zzzz",
    "3Gran2Zzzz1Gran6Zzzz1Gran5Zzzz7Gran2Zzzz7Gran3Zzzz5GranbZzzzaTutg1Zzzz1Tutg2Zzzz1Tutg1Zzzz",
    "26Tutg1ZzzzaTutg1Zzzz1Tutg2Zzzz1Tutg1Zzzz4Tutg1ZzzzaTutg1Zzzz2Tutg8Zzzz2Tutg1dZzzz5cNewa",
    "1Zzzz5Newa1eZzzz48Tirh8ZzzzaTirha6Zzzz36Sidd2Zzzz26Sidd22Zzzz45ModibZzzzaModi6ZzzzdMong",
    "13Zzzz3aTakr6ZzzzaTakr6Zzzz14Mymr1cZzzz1bAhom2ZzzzfAhom4Zzzz17Ahomb9Zzzz3cDogr64Zzzz53Wara",
    "cZzzz1Wara7Diak2Zzzz1Diak2Zzzz8Diak1Zzzz2Diak1Zzzz1eDiak1Zzzz2Diak2ZzzzcDiak9ZzzzaDiak",
    "46Zzzz8Nand2Zzzz2eNand2ZzzzbNand1bZzzz48Zanb8Zzzz53SoyodZzzz10Cans39Pauc7ZzzzaDevab6Zzzz",
    "22SunueZzzzaSunu6Zzzz9Bhks1Zzzz2dBhks1ZzzzeBhksaZzzz1dBhks3Zzzz20Marc2Zzzz16Marc1ZzzzeMarc",
    "49Zzzz7Gonm1Zzzz2Gonm1Zzzz2cGonm3Zzzz1Gonm1Zzzz2Gonm1Zzzz9Gonm8ZzzzaGonm6Zzzz6Gong1Zzzz",
    "2Gong1Zzzz25Gong1Zzzz2Gong1Zzzz6Gong7ZzzzaGong136Zzzz19Maka7Zzzz11Kawi1Zzzz29Kawi3Zzzz",
    "1dKawi55Zzzz1LisufZzzz32TamldZzzz1Taml39aXsux66Zzzz6fXsux1Zzzz5XsuxbZzzzc4Xsuxa4cZzzz",
    "63CpmndZzzz456EgypaZzzzf9bEgyp5Zzzz247Hluw1ab9Zzzz3aGukh6c6Zzzz239Bamu7Zzzz1fMroo1Zzzz",
    "aMroo4Zzzz2Mroo4fTnsa1ZzzzaTnsa6Zzzz1eBass2Zzzz6BassaZzzz46HmngaZzzzaHmng1Zzzz7Hmng1Zzzz",
    "15Hmng5Zzzz13Hmng1b0Zzzz3aKraic6Zzzz5bMedf65Zzzz4bPlrd4Zzzz39Plrd7Zzzz11Plrd40Zzzz1Tang",
    "1Nshu2Hani1KitsbZzzz2HanieZzzz17f8Tang8Zzzz300Tang1d6Kits29Zzzz1Kits9Tang22e7Zzzz4Kana",
    "1Zzzz7Kana1Zzzz2Kana1Zzzz1Kana11fHira3KanafZzzz1Hira1dZzzz3Hira2Zzzz1KanaeZzzz4Kana8Zzzz",
    "18cNshu904Zzzz6bDupl5ZzzzdDupl3Zzzz9Dupl7ZzzzaDupl2Zzzz4Dupl4Zyyyf5cZzzzfaZyyy6Zzzz1b4Zyyy",
    "4cZzzz2eZinh2Zzzz17Zinh9Zzzz74Zyyy3cZzzzf6ZyyyaZzzz27Zyyy2Zzzz3eZyyy3Zinh11Zyyy8Zinh2Zyyy",
    "7Zinh1eZyyy4Zinh3dZyyy15Zzzz46Grek7aZzzz14ZyyycZzzz14ZyyycZzzz57Zyyy9Zzzz19Zyyy87Zzzz",
    "55Zyyy1Zzzz47Zyyy1Zzzz2Zyyy2Zzzz1Zyyy2Zzzz2Zyyy2Zzzz4Zyyy1ZzzzcZyyy1Zzzz1Zyyy1Zzzz7Zyyy",
    "1Zzzz41Zyyy1Zzzz4Zyyy2Zzzz8Zyyy1Zzzz7Zyyy1Zzzz1cZyyy1Zzzz4Zyyy1Zzzz5Zyyy1Zzzz1Zyyy3Zzzz",
    "7Zyyy1Zzzz154Zyyy2Zzzz124Zyyy2Zzzz32Zyyy28cSgnwfZzzz5Sgnw1ZzzzfSgnw450Zzzz1fLatn6Zzzz6Latn",
    "d5Zzzz7Glag1Zzzz11Glag2Zzzz7Glag1Zzzz2Glag1Zzzz5Glag5Zzzz3eCyrl21Zzzz1Cyrl70Zzzz2dHmnp",
    "3ZzzzeHmnp2ZzzzaHmnp4Zzzz2Hmnp140Zzzz1fToto11Zzzz3aWcho5Zzzz1Wcho1d0Zzzz2aNagmd6Zzzz2bOnao",
    "4Zzzz1Onao1e0Zzzz7Ethi1Zzzz4Ethi1Zzzz2Ethi1ZzzzfEthi1Zzzzc5Mend2Zzzz10Mend29Zzzz4cAdlm",
    "4ZzzzaAdlm4Zzzz2Adlm311Zzzz44Zyyy4cZzzz3dZyyyc2Zzzz4Arab1Zzzz1bArab1Zzzz2Arab1Zzzz1Arab",
    "2Zzzz1Arab1ZzzzaArab1Zzzz4Arab1Zzzz1Arab1Zzzz1Arab6Zzzz1Arab4Zzzz1Arab1Zzzz1Arab1Zzzz1Arab",
    "1Zzzz3Arab1Zzzz2Arab1Zzzz1Arab2Zzzz1Arab1Zzzz1Arab1Zzzz1Arab1Zzzz1Arab1Zzzz1Arab1Zzzz2Arab",
    "1Zzzz1Arab2Zzzz4Arab1Zzzz7Arab1Zzzz4Arab1Zzzz4Arab1Zzzz1Arab1ZzzzaArab1Zzzz11Arab5Zzzz",
    "3Arab1Zzzz5Arab1Zzzz11Arab34Zzzz2Arab10eZzzz2cZyyy4Zzzz64ZyyycZzzzfZyyy2ZzzzfZyyy1Zzzz",
    "fZyyy1Zzzz25ZyyyaZzzzaeZyyy38Zzzz1aZyyy1Hira2ZyyydZzzz2cZyyy4Zzzz9Zyyy7Zzzz2ZyyyeZzzz6Zyyy",
    "9aZzzz3d8Zyyy4Zzzz11Zyyy3ZzzzdZyyy3Zzzz77Zyyy4Zzzz5fZyyy6ZzzzcZyyy4Zzzz1ZyyyfZzzzcZyyy",
    "4Zzzz38Zyyy8ZzzzaZyyy6Zzzz28Zyyy8Zzzz1eZyyy2ZzzzcZyyy4Zzzz2Zyyy3eZzzz154ZyyycZzzzeZyyy",
    "2ZzzzdZyyy3ZzzzaZyyy5Zzzz38Zyyy7ZzzzfZyyy2ZzzzbZyyy6Zzzz9Zyyy7Zzzz93Zyyy1Zzzz66Zyyy406Zzzz",
    "a6e0Hani20Zzzz103aHani6ZzzzdeHani2Zzzz1682HanieZzzz1d31HanifZzzz26eHani9a2Zzzz21eHani",
    "5e2Zzzz134bHani5Zzzz1060Haniadc51Zzzz1Zyyy1eZzzz60Zyyy80Zzzzf0Zinh2fe10Zzzz"]

/-- The characters that are used by other scripts than their own: the first and the last of
consecutive characters, and the codes of all their scripts. -/
def sharedRuns : List (Nat × Nat × List String) :=
  [(0xb7, 0xb7, ["Avst", "Cari", "Copt", "Dupl", "Elba", "Geor", "Glag", "Gong", "Goth", "Grek",
     "Hani", "Latn", "Lydi", "Mahj", "Perm", "Shaw"]),
   (0x2bc, 0x2bc, ["Beng", "Cyrl", "Deva", "Latn", "Lisu", "Thai", "Toto"]),
   (0x2c7, 0x2c7, ["Bopo", "Latn"]),
   (0x2c9, 0x2cb, ["Bopo", "Latn"]),
   (0x2cd, 0x2cd, ["Latn", "Lisu"]),
   (0x2d7, 0x2d7, ["Latn", "Thai"]),
   (0x2d9, 0x2d9, ["Bopo", "Latn"]),
   (0x300, 0x300, ["Cher", "Copt", "Cyrl", "Grek", "Latn", "Perm", "Sunu", "Tale"]),
   (0x301, 0x301, ["Cher", "Cyrl", "Grek", "Latn", "Osge", "Sunu", "Tale", "Todr"]),
   (0x302, 0x302, ["Cher", "Cyrl", "Latn", "Tfng"]),
   (0x303, 0x303, ["Glag", "Latn", "Sunu", "Syrc", "Thai"]),
   (0x304, 0x304, ["Aghb", "Cher", "Copt", "Cyrl", "Goth", "Grek", "Latn", "Osge", "Syrc", "Tfng",
     "Todr"]),
   (0x305, 0x305, ["Copt", "Elba", "Glag", "Goth", "Kana", "Latn"]),
   (0x306, 0x306, ["Cyrl", "Grek", "Latn", "Perm", "Tfng"]),
   (0x307, 0x307, ["Copt", "Dupl", "Hebr", "Latn", "Perm", "Syrc", "Tale", "Tfng", "Todr"]),
   (0x308, 0x308, ["Armn", "Cyrl", "Dupl", "Goth", "Grek", "Hebr", "Latn", "Perm", "Syrc", "Tale",
     "Tfng"]),
   (0x309, 0x309, ["Latn", "Tfng"]),
   (0x30a, 0x30a, ["Dupl", "Latn", "Syrc"]),
   (0x30b, 0x30b, ["Cher", "Cyrl", "Latn", "Osge"]),
   (0x30c, 0x30c, ["Cher", "Latn", "Tale"]),
   (0x30d, 0x30d, ["Latn", "Sunu"]),
   (0x30e, 0x30e, ["Ethi", "Latn"]),
   (0x310, 0x310, ["Latn", "Sunu"]),
   (0x311, 0x311, ["Cyrl", "Latn", "Todr"]),
   (0x313, 0x313, ["Grek", "Latn", "Perm", "Todr"]),
   (0x323, 0x323, ["Cher", "Dupl", "Kana", "Latn", "Syrc", "Tfng"]),
   (0x324, 0x324, ["Cher", "Dupl", "Latn", "Syrc"]),
   (0x325, 0x325, ["Latn", "Syrc"]),
   (0x32d, 0x32d, ["Latn", "Sunu", "Syrc"]),
   (0x32e, 0x32e, ["Latn", "Syrc"]),
   (0x330, 0x330, ["Cher", "Latn", "Syrc"]),
   (0x331, 0x331, ["Aghb", "Cher", "Goth", "Latn", "Sunu", "Syrc", "Thai"]),
   (0x342, 0x342, ["Grek"]),
   (0x345, 0x345, ["Grek"]),
   (0x358, 0x358, ["Latn", "Osge"]),
   (0x35e, 0x35e, ["Aghb", "Latn", "Todr"]),
   (0x363, 0x36f, ["Latn"]),
   (0x374, 0x375, ["Copt", "Grek"]),
   (0x483, 0x483, ["Cyrl", "Perm"]),
   (0x484, 0x484, ["Cyrl", "Glag"]),
   (0x485, 0x486, ["Cyrl", "Latn"]),
   (0x487, 0x487, ["Cyrl", "Glag"]),
   (0x589, 0x589, ["Armn", "Geor", "Glag"]),
   (0x60c, 0x60c, ["Arab", "Gara", "Nkoo", "Rohg", "Syrc", "Thaa", "Yezi"]),
   (0x61b, 0x61b, ["Arab", "Gara", "Nkoo", "Rohg", "Syrc", "Thaa", "Yezi"]),
   (0x61c, 0x61c, ["Arab", "Syrc", "Thaa"]),
   (0x61f, 0x61f, ["Adlm", "Arab", "Gara", "Nkoo", "Rohg", "Syrc", "Thaa", "Yezi"]),
   (0x640, 0x640, ["Adlm", "Arab", "Mand", "Mani", "Ougr", "Phlp", "Rohg", "Sogd", "Syrc"]),
   (0x64b, 0x655, ["Arab", "Syrc"]),
   (0x660, 0x669, ["Arab", "Thaa", "Yezi"]),
   (0x670, 0x670, ["Arab", "Syrc"]),
   (0x6d4, 0x6d4, ["Arab", "Rohg"]),
   (0x951, 0x951, ["Beng", "Deva", "Gran", "Gujr", "Guru", "Knda", "Latn", "Mlym", "Nand", "Newa",
     "Orya", "Shrd", "Taml", "Telu", "Tirh"]),
   (0x952, 0x952, ["Beng", "Deva", "Gran", "Gujr", "Guru", "Knda", "Latn", "Mlym", "Newa", "Orya",
     "Taml", "Telu", "Tirh"]),
   (0x964, 0x964, ["Beng", "Deva", "Dogr", "Gong", "Gonm", "Gran", "Gujr", "Guru", "Knda", "Mahj",
     "Mlym", "Nand", "Onao", "Orya", "Sind", "Sinh", "Sylo", "Takr", "Taml", "Telu", "Tirh"]),
   (0x965, 0x965, ["Beng", "Deva", "Dogr", "Gong", "Gonm", "Gran", "Gujr", "Gukh", "Guru", "Knda",
     "Limb", "Mahj", "Mlym", "Nand", "Onao", "Orya", "Sind", "Sinh", "Sylo", "Takr", "Taml", "Telu",
     "Tirh"]),
   (0x966, 0x96f, ["Deva", "Dogr", "Kthi", "Mahj"]),
   (0x9e6, 0x9ef, ["Beng", "Cakm", "Sylo"]),
   (0xa66, 0xa6f, ["Guru", "Mult"]),
   (0xae6, 0xaef, ["Gujr", "Khoj"]),
   (0xbe6, 0xbf3, ["Gran", "Taml"]),
   (0xce6, 0xcef, ["Knda", "Nand", "Tutg"]),
   (0x1040, 0x1049, ["Cakm", "Mymr", "Tale"]),
   (0x10fb, 0x10fb, ["Geor", "Glag", "Latn"]),
   (0x16eb, 0x16ed, ["Runr"]),
   (0x1735, 0x1736, ["Buhd", "Hano", "Tagb", "Tglg"]),
   (0x1802, 0x1803, ["Mong", "Phag"]),
   (0x1805, 0x1805, ["Mong", "Phag"]),
   (0x1cd0, 0x1cd0, ["Beng", "Deva", "Gran", "Knda"]),
   (0x1cd1, 0x1cd1, ["Deva"]),
   (0x1cd2, 0x1cd2, ["Beng", "Deva", "Gran", "Knda"]),
   (0x1cd3, 0x1cd3, ["Deva", "Gran", "Knda"]),
   (0x1cd4, 0x1cd4, ["Deva"]),
   (0x1cd5, 0x1cd5, ["Beng", "Deva", "Newa", "Telu", "Tirh"]),
   (0x1cd6, 0x1cd6, ["Beng", "Deva", "Telu"]),
   (0x1cd7, 0x1cd7, ["Deva", "Newa", "Shrd"]),
   (0x1cd8, 0x1cd8, ["Beng", "Deva", "Newa", "Telu"]),
   (0x1cd9, 0x1cd9, ["Deva", "Shrd"]),
   (0x1cda, 0x1cda, ["Deva", "Knda", "Mlym", "Orya", "Taml", "Telu"]),
   (0x1cdb, 0x1cdb, ["Deva"]),
   (0x1cdc, 0x1cdd, ["Deva", "Shrd"]),
   (0x1cde, 0x1cdf, ["Deva"]),
   (0x1ce0, 0x1ce0, ["Deva", "Shrd"]),
   (0x1ce1, 0x1ce1, ["Beng", "Deva"]),
   (0x1ce2, 0x1ce2, ["Deva", "Newa", "Tirh"]),
   (0x1ce3, 0x1ce8, ["Deva"]),
   (0x1ce9, 0x1ce9, ["Deva", "Nand", "Newa"]),
   (0x1cea, 0x1cea, ["Beng", "Deva", "Shrd"]),
   (0x1ceb, 0x1ceb, ["Deva", "Newa"]),
   (0x1cec, 0x1cec, ["Deva"]),
   (0x1ced, 0x1ced, ["Beng", "Deva", "Newa", "Shrd"]),
   (0x1cee, 0x1cf1, ["Deva"]),
   (0x1cf2, 0x1cf2, ["Beng", "Deva", "Gran", "Knda", "Mlym", "Nand", "Orya", "Sinh", "Telu", "Tirh",
     "Tutg"]),
   (0x1cf3, 0x1cf3, ["Deva", "Gran"]),
   (0x1cf4, 0x1cf4, ["Deva", "Gran", "Knda", "Tutg"]),
   (0x1cf5, 0x1cf6, ["Beng", "Deva"]),
   (0x1cf7, 0x1cf7, ["Beng"]),
   (0x1cf8, 0x1cf9, ["Deva", "Gran"]),
   (0x1cfa, 0x1cfa, ["Nand"]),
   (0x1dc0, 0x1dc1, ["Grek"]),
   (0x1df8, 0x1df8, ["Cyrl", "Latn", "Syrc"]),
   (0x1dfa, 0x1dfa, ["Syrc"]),
   (0x202f, 0x202f, ["Latn", "Mong", "Phag"]),
   (0x204f, 0x204f, ["Adlm", "Arab"]),
   (0x205a, 0x205a, ["Cari", "Geor", "Glag", "Hung", "Lyci", "Orkh"]),
   (0x205d, 0x205d, ["Cari", "Grek", "Hung", "Mero"]),
   (0x20f0, 0x20f0, ["Deva", "Gran", "Latn"]),
   (0x2e17, 0x2e17, ["Copt", "Latn"]),
   (0x2e30, 0x2e30, ["Avst", "Orkh"]),
   (0x2e31, 0x2e31, ["Avst", "Cari", "Geor", "Hung", "Kthi", "Lydi", "Samr"]),
   (0x2e3c, 0x2e3c, ["Dupl"]),
   (0x2e41, 0x2e41, ["Adlm", "Arab", "Hung"]),
   (0x2e43, 0x2e43, ["Cyrl", "Glag"]),
   (0x2ff0, 0x2fff, ["Hani", "Tang"]),
   (0x3001, 0x3001, ["Bopo", "Hang", "Hani", "Hira", "Kana", "Mong", "Yiii"]),
   (0x3002, 0x3002, ["Bopo", "Hang", "Hani", "Hira", "Kana", "Mong", "Phag", "Yiii"]),
   (0x3003, 0x3003, ["Bopo", "Hang", "Hani", "Hira", "Kana"]),
   (0x3006, 0x3006, ["Hani"]),
   (0x3008, 0x3009, ["Bopo", "Hang", "Hani", "Hira", "Kana", "Mong", "Tibt", "Yiii"]),
   (0x300a, 0x300b, ["Bopo", "Hang", "Hani", "Hira", "Kana", "Lisu", "Mong", "Tibt", "Yiii"]),
   (0x300c, 0x3011, ["Bopo", "Hang", "Hani", "Hira", "Kana", "Yiii"]),
   (0x3013, 0x3013, ["Bopo", "Hang", "Hani", "Hira", "Kana"]),
   (0x3014, 0x301b, ["Bopo", "Hang", "Hani", "Hira", "Kana", "Yiii"]),
   (0x301c, 0x301f, ["Bopo", "Hang", "Hani", "Hira", "Kana"]),
   (0x302a, 0x302d, ["Bopo", "Hani"]),
   (0x3030, 0x3030, ["Bopo", "Hang", "Hani", "Hira", "Kana"]),
   (0x3031, 0x3035, ["Hira", "Kana"]),
   (0x3037, 0x3037, ["Bopo", "Hang", "Hani", "Hira", "Kana"]),
   (0x303c, 0x303d, ["Hani", "Hira", "Kana"]),
   (0x303e, 0x303f, ["Hani"]),
   (0x3099, 0x309c, ["Hira", "Kana"]),
   (0x30a0, 0x30a0, ["Hira", "Kana"]),
   (0x30fb, 0x30fb, ["Bopo", "Hang", "Hani", "Hira", "Kana", "Yiii"]),
   (0x30fc, 0x30fc, ["Hira", "Kana"]),
   (0x3190, 0x319f, ["Hani"]),
   (0x31c0, 0x31e5, ["Hani"]),
   (0x31ef, 0x31ef, ["Hani", "Tang"]),
   (0x3220, 0x3247, ["Hani"]),
   (0x3280, 0x32b0, ["Hani"]),
   (0x32c0, 0x32cb, ["Hani"]),
   (0x32ff, 0x32ff, ["Hani"]),
   (0x3358, 0x3370, ["Hani"]),
   (0x337b, 0x337f, ["Hani"]),
   (0x33e0, 0x33fe, ["Hani"]),
   (0xa66f, 0xa66f, ["Cyrl", "Glag"]),
   (0xa700, 0xa707, ["Hani", "Latn"]),
   (0xa830, 0xa832, ["Deva", "Dogr", "Gujr", "Guru", "Khoj", "Knda", "Kthi", "Mahj", "Mlym", "Modi",
     "Nand", "Shrd", "Sind", "Takr", "Tirh", "Tutg"]),
   (0xa833, 0xa835, ["Deva", "Dogr", "Gujr", "Guru", "Khoj", "Knda", "Kthi", "Mahj", "Modi", "Nand",
     "Shrd", "Sind", "Takr", "Tirh", "Tutg"]),
   (0xa836, 0xa837, ["Deva", "Dogr", "Gujr", "Guru", "Khoj", "Kthi", "Mahj", "Modi", "Sind", "Takr",
     "Tirh"]),
   (0xa838, 0xa838, ["Deva", "Dogr", "Gujr", "Guru", "Khoj", "Kthi", "Mahj", "Modi", "Shrd", "Sind",
     "Takr", "Tirh"]),
   (0xa839, 0xa839, ["Deva", "Dogr", "Gujr", "Guru", "Khoj", "Kthi", "Mahj", "Modi", "Sind", "Takr",
     "Tirh"]),
   (0xa8f1, 0xa8f1, ["Beng", "Deva", "Tutg"]),
   (0xa8f3, 0xa8f3, ["Deva", "Taml"]),
   (0xa92e, 0xa92e, ["Kali", "Latn", "Mymr"]),
   (0xa9cf, 0xa9cf, ["Bugi", "Java"]),
   (0xfd3e, 0xfd3f, ["Arab", "Nkoo"]),
   (0xfdf2, 0xfdf2, ["Arab", "Thaa"]),
   (0xfdfd, 0xfdfd, ["Arab", "Thaa"]),
   (0xfe45, 0xfe46, ["Bopo", "Hang", "Hani", "Hira", "Kana"]),
   (0xff61, 0xff65, ["Bopo", "Hang", "Hani", "Hira", "Kana", "Yiii"]),
   (0xff70, 0xff70, ["Hira", "Kana"]),
   (0xff9e, 0xff9f, ["Hira", "Kana"]),
   (0x10100, 0x10101, ["Cpmn", "Cprt", "Linb"]),
   (0x10102, 0x10102, ["Cprt", "Linb"]),
   (0x10107, 0x10133, ["Cprt", "Lina", "Linb"]),
   (0x10137, 0x1013f, ["Cprt", "Linb"]),
   (0x102e0, 0x102fb, ["Arab", "Copt"]),
   (0x10af2, 0x10af2, ["Mani", "Ougr"]),
   (0x11301, 0x11301, ["Gran", "Taml"]),
   (0x11303, 0x11303, ["Gran", "Taml"]),
   (0x1133b, 0x1133c, ["Gran", "Taml"]),
   (0x11fd0, 0x11fd1, ["Gran", "Taml"]),
   (0x11fd3, 0x11fd3, ["Gran", "Taml"]),
   (0x1bca0, 0x1bca3, ["Dupl"]),
   (0x1d360, 0x1d371, ["Hani"]),
   (0x1f250, 0x1f251, ["Hani"])]

/-- The script of a character. -/
def of (c : Char) : Script :=
  ⟨(table.lookup? c.toNat).getD "Zzzz"⟩

/-- Every script that uses a character. -/
def extensions (c : Char) : List Script :=
  match sharedRuns.find? fun (first, last, _) => first ≤ c.toNat ∧ c.toNat ≤ last with
  | some (_, _, codes) => codes.map Script.mk
  | none => [of c]

end Script

end TrackBrowser.Unicode
