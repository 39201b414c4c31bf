import Redraft.Unicode.Coded

/-!
The scripts: short name, long name and coded ranges. A character that is used in several
scripts, or in another than its own, is listed among the extensions with all of them.
-/

namespace Redraft.Unicode

def scriptTable : List (String × String × String) := [
  ("Zyyy", "Common",
    "0.40 1a.5 1a.2e 1.e 1.4 17 1f 1c1.26 5.4 2.13 74 9 6 1 27d 6 e 3 20 9c 204 81.1 4d9 195.3
     122 5ef.2 47.1 cb.1 1 4cd d 7.3 1.5 1.2 2 305.b 2.56 1.a 3.a 1.e 11.21 3e.25 1.2 2.5 1.1a
     1.10 29.2 4.299 16.a 15.39f 100.273 2.89 200.5d 192.14 1 1.18 f.7 4.3 5b.1 3 5a.1 93.f
     20.25 9 30.3f 1f.50 2f 58.a7 19c0.3f 5900.21 66.2 a5.9 f4 a0 18b e.1 51d2.1 d0.9 16.22 1.12
     1.3 93 1.1f 1a.5 1a.a a 2d.1 40.6 1.6 a.4 102.2 4.2c 3.8 50.c 33.2c e4.1a b9a4.3 f5c.fc
     3.1b3 6.16 f.10 5f.73 3c.f5 a.26 2.3d 3.10 8.1 7.1d 4.3c d5.13 c.13 c.56 9.18 87.54 1.46
     1.1 2 2.1 2.3 1.b 1 1.6 1.40 1.3 2.7 1.6 1.1b 1.3 1.4 1 3.6 1.153 2.123 2.31 1471.43 4c.3c
     2c2.2b 4.63 c.e 2.e 1.e 1.24 a.ad 38.19 1.1 d.2b 4.8 7.1 e.5 9a.3d8 3.10 3.c 3.d9 6.b 4 f.b
     4.37 8.9 6.27 8.1d 2.b 4.1 e.8 27.157 8.d 2.c 3.a 3.38 1 4.f 2.b 4.9 7.92 1.66 c0406 1e.5f"),
  ("Latn", "Latin",
    "41.19 6.19 2f f 5.16 1.1e 1.1c0 27.4 1a1b.25 6.30 5.3 5.c 1.45 41.ff 171 d 10.c 8d.1 6 1b
     11.28 ad7.1f 7aa2.65 3.51 14.e 330.2a 1.8 1.3 4f96.6 41a.19 6.19 825.5 1.29 1.8 d745.1e 6.5"),
  ("Bopo", "Bopomofo",
    "2ea.1 2e19.2a 70.1f"),
  ("Zinh", "Inherited",
    "300.6f 115.1 1c4.a 1a 2e0.3 115b.2d 2.b 1e4.2 1.c 1.6 4 6 3.1 c6.3f 20c.1 c2.20 f39.3 6b.1
     cd65.f 10.d 3cf e2 105a bbc4.2d 2.16 220.2 11.7 2.6 1e.3 c2f52.ef"),
  ("Grek", "Greek",
    "370.3 1.2 2.3 1 4 1 1.2 1 1.13 1.3e e.f 1926.4 32.4 4.4 54 140.15 2.5 2.25 2.5 2.7 1*3 1.1e
     2.34 1.e 1.d 2.5 1.12 2.2 1.8 127 8a3e 55da.4e 11 d05f.45"),
  ("Copt", "Coptic",
    "3e2.d 2890.73 5.6"),
  ("Cyrl", "Cyrillic",
    "400.84 2.a8 1750.a a0 4c 1067.1f 7840.5f 578e.1 e200.3d 21"),
  ("Armn", "Armenian",
    "531.25 2.31 2.2 f583.4"),
  ("Hebr", "Hebrew",
    "591.36 8.1a 4.5 f528.19 1.4 1 1.1*2 1.9"),
  ("Arab", "Arabic",
    "600.4 1.5 1.d 1.2 1.1f 1.9 b.19 1.6b 1.21 50.2f f0.21 5.4a 1.1c f250.1ed 2.8f 20.f 70.4
     1.86 f63.1e 43.5 8.8 21.5 df00.3 1.1a 1.1 1 2 1.9 1.3 1*2 6 4 1*2 1.2 1.1 1 2 1*4 1.1 1 2.3
     1.6 1.3*2 1 1.9 1.10 5.2 1.4 1.10 34.1"),
  ("Syrc", "Syriac",
    "700.d 1.3b 2.2 110.a"),
  ("Thaa", "Thaana",
    "780.31"),
  ("Nkoo", "Nko",
    "7c0.3a 2.2"),
  ("Samr", "Samaritan",
    "800.2d 2.e"),
  ("Mand", "Mandaic",
    "840.1b 2"),
  ("Deva", "Devanagari",
    "900.50 4.e 2.19 9f60.1f 7200.9"),
  ("Beng", "Bengali",
    "980.3 1.7 2.1 2.15 1.6 1 3.3 2.8 2.1 2.3 8 4.1 1.4 2.18"),
  ("Guru", "Gurmukhi",
    "a01.2 1.5 4.1 2.15 1.6 1.1*3 2 1.4 4.1 2.2 3 7.3 1 7.10"),
  ("Gujr", "Gujarati",
    "a81.2 1.8 1.2 1.15 1.6 1.1 1.4 2.9 1.2*2 2 f.3 2.b 7.6"),
  ("Orya", "Oriya",
    "b01.2 1.7 2.1 2.15 1.6 1.1 1.4 2.8 2.1 2.2 7.2 4.1 1.4 2.11"),
  ("Taml", "Tamil",
    "b82.1 1.5 3.2 1.3 3.1 1 1.1 3.1 3.2 3.b 4.4 3.2 1.3 2 6 e.14 113c5.31 d"),
  ("Telu", "Telugu",
    "c00.c 1.2 1.16 1.f 2.8 1.2 1.3 7.1 1.2 1.1 2.3 2.9 7.8"),
  ("Knda", "Kannada",
    "c80.c 1.2 1.16 1.9 1.4 2.8 1.2 1.3 7.1 5.2 1.3 2.9 1.2"),
  ("Mlym", "Malayalam",
    "d00.c 1.2 1.32 1.2 1.5 4.f 2.19"),
  ("Sinh", "Sinhala",
    "d81.2 1.11 3.17 1.8 1 2.6 3 4.5 1 1.7 6.9 2.2 103ec.13"),
  ("Thai", "Thai",
    "e01.39 5.1b"),
  ("Laoo", "Lao",
    "e81.1 1 1.4 1.17 1 1.16 2.4 1 1.6 1.9 2.3"),
  ("Tibt", "Tibetan",
    "f00.47 1.23 4.26 1.23 1.e 1.6 4.1"),
  ("Mymr", "Myanmar",
    "1000.9f 9940.1e 61.1f 6c50.13"),
  ("Geor", "Georgian",
    "10a0.25 1 5 2.2a 1.3 b90.2a 2.2 1040.25 1 5"),
  ("Hang", "Hangul",
    "1100.ff 1e2e.1 101.5d 71.1e 41.1e 76e1.1c 283.2ba3 c.16 4.30 27a4.1e 3.5 2.5*2 2.2"),
  ("Ethi", "Ethiopic",
    "1200.48 1.3 2.6 1 1.3 2.28 1.3 2.20 1.3 2.6 1 1.3 2.e 1.38 1.3 2.42 2.1f 3.19 19e6.16 9.6
     1.6*7 7d22.5 2.5*2 9.6 1.6 13cb1.6 1.3 1.1 1.e"),
  ("Cher", "Cherokee",
    "13a0.55 2.5 9772.4f"),
  ("Cans", "Canadian_Aboriginal",
    "1400.27f 230.45 101ba.f"),
  ("Ogam", "Ogham",
    "1680.1c"),
  ("Runr", "Runic",
    "16a0.4a 3.a"),
  ("Tglg", "Tagalog",
    "1700.15 9"),
  ("Hano", "Hanunoo",
    "1720.14"),
  ("Buhd", "Buhid",
    "1740.13"),
  ("Tagb", "Tagbanwa",
    "1760.c 1.2 1.1"),
  ("Khmr", "Khmer",
    "1780.5d 2.9 6.9 1e6.1f"),
  ("Mong", "Mongolian",
    "1800.1 2 1.13 6.58 7.2a fdb5.c"),
  ("Limb", "Limbu",
    "1900.1e 1.b 4.b 4 3.b"),
  ("Tale", "Tai_Le",
    "1950.1d 2.4"),
  ("Talu", "New_Tai_Lue",
    "1980.2b 4.19 6.a 3.1"),
  ("Bugi", "Buginese",
    "1a00.1b 2.1"),
  ("Lana", "Tai_Tham",
    "1a20.3e 1.1c 2.a 6.9 6.d"),
  ("Bali", "Balinese",
    "1b00.4c 1.31"),
  ("Sund", "Sundanese",
    "1b80.3f 100.7"),
  ("Batk", "Batak",
    "1bc0.33 8.3"),
  ("Lepc", "Lepcha",
    "1c00.37 3.e 3.2"),
  ("Olck", "Ol_Chiki",
    "1c50.2f"),
  ("Brai", "Braille",
    "2800.ff"),
  ("Glag", "Glagolitic",
    "2c00.5f 1b3a0.6 1.10 2.6 1.1 1.4"),
  ("Tfng", "Tifinagh",
    "2d30.37 7.1 e"),
  ("Hani", "Han",
    "2e80.19 1.58 c.d5 2f 1 19.8 e.3 3c4.19bf 40.51ff 5900.16d 2.69 7508.1 c.6 9009.a6df 20.111d
     2.168d 2.1d30 f.26d 9a2.21d 5e2.134a 5.2129"),
  ("Hira", "Hiragana",
    "3041.55 6.2 17f61.11e 12 1d.2 40ad"),
  ("Kana", "Katakana",
    "30a1.59 2.2 f0.f d0.2e 1.57 cc0e.9 1.2c b052.3 1.6 1.1 1 11f.2 32 e.3"),
  ("Yiii", "Yi",
    "a000.48c 3.36"),
  ("Lisu", "Lisu",
    "a4d0.2f 7ab0"),
  ("Vaii", "Vai",
    "a500.12b"),
  ("Bamu", "Bamum",
    "a6a0.57 c108.238"),
  ("Sylo", "Syloti_Nagri",
    "a800.2c"),
  ("Phag", "Phags_Pa",
    "a840.37"),
  ("Saur", "Saurashtra",
    "a880.45 8.b"),
  ("Kali", "Kayah_Li",
    "a900.2d 1"),
  ("Rjng", "Rejang",
    "a930.23 b"),
  ("Java", "Javanese",
    "a980.4d 2.9 4.1"),
  ("Cham", "Cham",
    "aa00.36 9.d 2.9 2.3"),
  ("Tavt", "Tai_Viet",
    "aa80.42 18.4"),
  ("Mtei", "Meetei_Mayek",
    "aae0.16 c9.2d 2.9"),
  ("Linb", "Linear_B",
    "10000.b 1.19 1.12 1.1 1.e 2.d 22.7a"),
  ("Lyci", "Lycian",
    "10280.1c"),
  ("Cari", "Carian",
    "102a0.30"),
  ("Ital", "Old_Italic",
    "10300.23 9.2"),
  ("Goth", "Gothic",
    "10330.1a"),
  ("Perm", "Old_Permic",
    "10350.2a"),
  ("Ugar", "Ugaritic",
    "10380.1d 1"),
  ("Xpeo", "Old_Persian",
    "103a0.23 4.d"),
  ("Dsrt", "Deseret",
    "10400.4f"),
  ("Shaw", "Shavian",
    "10450.2f"),
  ("Osma", "Osmanya",
    "10480.1d 2.9"),
  ("Osge", "Osage",
    "104b0.23 4.23"),
  ("Elba", "Elbasan",
    "10500.27"),
  ("Aghb", "Caucasian_Albanian",
    "10530.33 b"),
  ("Vith", "Vithkuqi",
    "10570.a 1.e 1.6 1.1 1.a 1.e 1.6 1.1"),
  ("Todr", "Todhri",
    "105c0.33"),
  ("Lina", "Linear_A",
    "10600.136 9.15 a.7"),
  ("Cprt", "Cypriot",
    "10800.5 2 1.2b 1.1 3 2"),
  ("Armi", "Imperial_Aramaic",
    "10840.15 1.8"),
  ("Palm", "Palmyrene",
    "10860.1f"),
  ("Nbat", "Nabataean",
    "10880.1e 8.8"),
  ("Hatr", "Hatran",
    "108e0.12 1.1 5.4"),
  ("Phnx", "Phoenician",
    "10900.1b 3"),
  ("Lydi", "Lydian",
    "10920.19 5"),
  ("Sidt", "Sidetic",
    "10940.19"),
  ("Mero", "Meroitic_Hieroglyphs",
    "10980.1f"),
  ("Merc", "Meroitic_Cursive",
    "109a0.17 4.13 2.2d"),
  ("Khar", "Kharoshthi",
    "10a00.3 1.1 5.7 1.2 1.1c 2.2 4.9 7.8"),
  ("Sarb", "Old_South_Arabian",
    "10a60.1f"),
  ("Narb", "Old_North_Arabian",
    "10a80.1f"),
  ("Mani", "Manichaean",
    "10ac0.26 4.b"),
  ("Avst", "Avestan",
    "10b00.35 3.6"),
  ("Prti", "Inscriptional_Parthian",
    "10b40.15 2.7"),
  ("Phli", "Inscriptional_Pahlavi",
    "10b60.12 5.7"),
  ("Phlp", "Psalter_Pahlavi",
    "10b80.11 7.3 c.6"),
  ("Orkh", "Old_Turkic",
    "10c00.48"),
  ("Hung", "Old_Hungarian",
    "10c80.32 d.32 7.5"),
  ("Rohg", "Hanifi_Rohingya",
    "10d00.27 8.9"),
  ("Gara", "Garay",
    "10d40.25 3.1c 8.1"),
  ("Yezi", "Yezidi",
    "10e80.29 1.2 2.1"),
  ("Sogo", "Old_Sogdian",
    "10f00.27"),
  ("Sogd", "Sogdian",
    "10f30.29"),
  ("Ougr", "Old_Uyghur",
    "10f70.19"),
  ("Chrs", "Chorasmian",
    "10fb0.1b"),
  ("Elym", "Elymaic",
    "10fe0.16"),
  ("Brah", "Brahmi",
    "11000.4d 4.23 9"),
  ("Kthi", "Kaithi",
    "11080.42 a"),
  ("Sora", "Sora_Sompeng",
    "110d0.18 7.9"),
  ("Cakm", "Chakma",
    "11100.34 1.11"),
  ("Mahj", "Mahajani",
    "11150.26"),
  ("Shrd", "Sharada",
    "11180.5f 980.7"),
  ("Khoj", "Khojki",
    "11200.11 1.2e"),
  ("Mult", "Multani",
    "11280.6 1 1.3 1.e 1.a"),
  ("Sind", "Khudawadi",
    "112b0.3a 5.9"),
  ("Gran", "Grantha",
    "11300.3 1.7 2.1 2.15 1.6 1.1 1.4 2.8 2.1 2.2 2 6 5.6 2.6 3.4"),
  ("Tutg", "Tulu_Tigalari",
    "11380.9 1 2 1.25 1.9 1 2 1.3 1.9 1.1 8.1"),
  ("Newa", "Newa",
    "11400.5b 1.4"),
  ("Tirh", "Tirhuta",
    "11480.47 8.9"),
  ("Sidd", "Siddham",
    "11580.35 2.25"),
  ("Modi", "Modi",
    "11600.44 b.9"),
  ("Takr", "Takri",
    "11680.39 6.9"),
  ("Ahom", "Ahom",
    "11700.1a 2.e 4.16"),
  ("Dogr", "Dogra",
    "11800.3b"),
  ("Wara", "Warang_Citi",
    "118a0.52 c"),
  ("Diak", "Dives_Akuru",
    "11900.6 2 2.7 1.1 1.1d 1.1 2.b 9.9"),
  ("Nand", "Nandinagari",
    "119a0.7 2.2d 2.a"),
  ("Zanb", "Zanabazar_Square",
    "11a00.47"),
  ("Soyo", "Soyombo",
    "11a50.52"),
  ("Pauc", "Pau_Cin_Hau",
    "11ac0.38"),
  ("Sunu", "Sunuwar",
    "11bc0.21 e.9"),
  ("Bhks", "Bhaiksuki",
    "11c00.8 1.2c 1.d a.1c"),
  ("Marc", "Marchen",
    "11c70.1f 2.15 1.d"),
  ("Gonm", "Masaram_Gondi",
    "11d00.6 1.1 1.2b 3 1.1 1.8 8.9"),
  ("Gong", "Gunjala_Gondi",
    "11d60.5 1.1 1.24 1.1 1.5 7.9"),
  ("Tols", "Tolong_Siki",
    "11db0.2b 4.9"),
  ("Maka", "Makasar",
    "11ee0.18"),
  ("Kawi", "Kawi",
    "11f00.10 1.28 3.1c"),
  ("Xsux", "Cuneiform",
    "12000.399 66.6e 1.4 b.c3"),
  ("Cpmn", "Cypro_Minoan",
    "12f90.62"),
  ("Egyp", "Egyptian_Hieroglyphs",
    "13000.455 a.f9a"),
  ("Hluw", "Anatolian_Hieroglyphs",
    "14400.246"),
  ("Gukh", "Gurung_Khema",
    "16100.39"),
  ("Mroo", "Mro",
    "16a40.1e 1.9 4.1"),
  ("Tnsa", "Tangsa",
    "16a70.4e 1.9"),
  ("Bass", "Bassa_Vah",
    "16ad0.1d 2.5"),
  ("Hmng", "Pahawh_Hmong",
    "16b00.45 a.9 1.6 1.14 5.12"),
  ("Krai", "Kirat_Rai",
    "16d40.39"),
  ("Medf", "Medefaidrin",
    "16e40.5a"),
  ("Berf", "Beria_Erfe",
    "16ea0.18 2.18"),
  ("Plrd", "Miao",
    "16f00.4a 4.38 7.10"),
  ("Tang", "Tangut",
    "16fe0 1f.1aff 200.1e 61.72"),
  ("Nshu", "Nushu",
    "16fe1 418e.18b"),
  ("Kits", "Khitan_Small_Script",
    "16fe4 1b1b.1d5 29"),
  ("Dupl", "Duployan",
    "1bc00.6a 5.c 3.8 7.9 2.3"),
  ("Sgnw", "SignWriting",
    "1d800.28b f.4 1.e"),
  ("Hmnp", "Nyiakeng_Puachue_Hmong",
    "1e100.2c 3.d 2.9 4.1"),
  ("Toto", "Toto",
    "1e290.1e"),
  ("Wcho", "Wancho",
    "1e2c0.39 5"),
  ("Nagm", "Nag_Mundari",
    "1e4d0.29"),
  ("Onao", "Ol_Onal",
    "1e5d0.2a 4"),
  ("Tayo", "Tai_Yo",
    "1e6c0.1e 1.15 8.1"),
  ("Mend", "Mende_Kikakui",
    "1e800.c4 2.f"),
  ("Adlm", "Adlam",
    "1e900.4b 4.9 4.1")]

def scriptExtensionTable : List (String × String) := [
  ("Avst Cari Copt Dupl Elba Geor Glag Gong Goth Grek Hani Latn Lydi Mahj Perm Shaw",
    "b7"),
  ("Beng Cyrl Deva Latn Lisu Thai Toto",
    "2bc"),
  ("Bopo Latn",
    "2c7 1.2 d"),
  ("Latn Lisu",
    "2cd"),
  ("Latn Thai",
    "2d7"),
  ("Cher Copt Cyrl Grek Latn Perm Sunu Tale",
    "300"),
  ("Cher Cyrl Grek Latn Osge Sunu Tale Todr",
    "301"),
  ("Cher Cyrl Latn Tfng",
    "302"),
  ("Glag Latn Sunu Syrc Thai",
    "303"),
  ("Aghb Cher Copt Cyrl Goth Grek Latn Osge Syrc Tfng Todr",
    "304"),
  ("Copt Elba Glag Goth Kana Latn",
    "305"),
  ("Cyrl Grek Latn Perm Tfng",
    "306"),
  ("Copt Dupl Hebr Latn Perm Syrc Tale Tfng Todr",
    "307"),
  ("Armn Cyrl Dupl Goth Grek Hebr Latn Perm Syrc Tale Tfng",
    "308"),
  ("Latn Tfng",
    "309"),
  ("Dupl Latn Syrc",
    "30a"),
  ("Cher Cyrl Latn Osge",
    "30b"),
  ("Cher Latn Tale",
    "30c"),
  ("Latn Sunu",
    "30d 2"),
  ("Ethi Latn",
    "30e"),
  ("Cyrl Latn Todr",
    "311"),
  ("Grek Latn Perm Todr",
    "313"),
  ("Cher Dupl Kana Latn Syrc Tfng",
    "323"),
  ("Cher Dupl Latn Syrc",
    "324"),
  ("Latn Syrc",
    "325 8"),
  ("Latn Sunu Syrc",
    "32d"),
  ("Cher Latn Syrc",
    "330"),
  ("Aghb Cher Goth Latn Sunu Syrc Thai",
    "331"),
  ("Grek",
    "342 2 1a7a.1"),
  ("Latn Osge",
    "358"),
  ("Aghb Latn Todr",
    "35e"),
  ("Latn",
    "363.c"),
  ("Copt Grek",
    "374.1"),
  ("Cyrl Perm",
    "483"),
  ("Cyrl Glag",
    "484 2 29bb 782b"),
  ("Cyrl Latn",
    "485.1"),
  ("Armn Geor Glag",
    "589"),
  ("Arab Gara Nkoo Rohg Syrc Thaa Yezi",
    "60c e"),
  ("Arab Syrc Thaa",
    "61c"),
  ("Adlm Arab Gara Nkoo Rohg Syrc Thaa Yezi",
    "61f"),
  ("Adlm Arab Mand Mani Ougr Phlp Rohg Sogd Syrc",
    "640"),
  ("Arab Syrc",
    "64b.a 1a"),
  ("Arab Thaa Yezi",
    "660.9"),
  ("Arab Rohg",
    "6d4"),
  ("Beng Deva Gran Gujr Guru Knda Latn Mlym Nand Newa Orya Shrd Taml Telu Tirh",
    "951"),
  ("Beng Deva Gran Gujr Guru Knda Latn Mlym Newa Orya Taml Telu Tirh",
    "952"),
  ("Beng Deva Dogr Gong Gonm Gran Gujr Guru Knda Mahj Mlym Nand Onao Orya Sind Sinh Sylo Takr
     Taml Telu Tirh",
    "964"),
  ("Beng Deva Dogr Gong Gonm Gran Gujr Gukh Guru Knda Limb Mahj Mlym Nand Onao Orya Sind Sinh
     Sylo Takr Taml Telu Tirh",
    "965"),
  ("Deva Dogr Kthi Mahj",
    "966.9"),
  ("Beng Cakm Sylo",
    "9e6.9"),
  ("Guru Mult",
    "a66.9"),
  ("Gujr Khoj",
    "ae6.9"),
  ("Gran Taml",
    "be6.d 1070d 1 37.1 c93.1 1"),
  ("Knda Nand Tutg",
    "ce6.9"),
  ("Cakm Mymr Tale",
    "1040.9"),
  ("Geor Glag Latn",
    "10fb"),
  ("Runr",
    "16eb.2"),
  ("Buhd Hano Tagb Tglg",
    "1735.1"),
  ("Mong Phag",
    "1802.1 1"),
  ("Beng Deva Gran Knda",
    "1cd0 1"),
  ("Deva",
    "1cd1 2 6 2.1 3.5 3 1.3"),
  ("Deva Gran Knda",
    "1cd3"),
  ("Beng Deva Newa Telu Tirh",
    "1cd5"),
  ("Beng Deva Telu",
    "1cd6"),
  ("Deva Newa Shrd",
    "1cd7"),
  ("Beng Deva Newa Telu",
    "1cd8"),
  ("Deva Shrd",
    "1cd9 2.1 2"),
  ("Deva Knda Mlym Orya Taml Telu",
    "1cda"),
  ("Beng Deva",
    "1ce1 13.1"),
  ("Deva Newa Tirh",
    "1ce2"),
  ("Deva Nand Newa",
    "1ce9"),
  ("Beng Deva Shrd",
    "1cea"),
  ("Deva Newa",
    "1ceb"),
  ("Beng Deva Newa Shrd",
    "1ced"),
  ("Beng Deva Gran Knda Mlym Nand Orya Sinh Telu Tirh Tutg",
    "1cf2"),
  ("Deva Gran",
    "1cf3 4.1"),
  ("Deva Gran Knda Tutg",
    "1cf4"),
  ("Beng",
    "1cf7"),
  ("Nand",
    "1cfa"),
  ("Cyrl Latn Syrc",
    "1df8"),
  ("Syrc",
    "1dfa"),
  ("Latn Mong Phag",
    "202f"),
  ("Adlm Arab",
    "204f"),
  ("Cari Geor Glag Hung Lyci Orkh",
    "205a"),
  ("Cari Grek Hung Mero",
    "205d"),
  ("Deva Gran Latn",
    "20f0"),
  ("Copt Latn",
    "2e17"),
  ("Avst Orkh",
    "2e30"),
  ("Avst Cari Geor Hung Kthi Lydi Samr",
    "2e31"),
  ("Dupl",
    "2e3c 18e63.3"),
  ("Adlm Arab Hung",
    "2e41"),
  ("Hani Tang",
    "2ff0.f 1ef"),
  ("Bopo Hang Hani Hira Kana Mong Yiii",
    "3001"),
  ("Bopo Hang Hani Hira Kana Mong Phag Yiii",
    "3002"),
  ("Bopo Hang Hani Hira Kana",
    "3003 f 8.3 10 6 ce0d.1"),
  ("Hani",
    "3006 37.1 150.f 20.25 3a.27 38.30 f.b 33 58.18 a.4 60.1e 19f61.11 1ede.1"),
  ("Bopo Hang Hani Hira Kana Mong Tibt Yiii",
    "3008.1"),
  ("Bopo Hang Hani Hira Kana Lisu Mong Tibt Yiii",
    "300a.1"),
  ("Bopo Hang Hani Hira Kana Yiii",
    "300c.5 2.7 df ce65.4"),
  ("Bopo Hani",
    "302a.3"),
  ("Hira Kana",
    "3031.4 63.3 3 5b ce73 2d.1"),
  ("Hani Hira Kana",
    "303c.1"),
  ("Hani Latn",
    "a700.7"),
  ("Deva Dogr Gujr Guru Khoj Knda Kthi Mahj Mlym Modi Nand Shrd Sind Takr Tirh Tutg",
    "a830.2"),
  ("Deva Dogr Gujr Guru Khoj Knda Kthi Mahj Modi Nand Shrd Sind Takr Tirh Tutg",
    "a833.2"),
  ("Deva Dogr Gujr Guru Khoj Kthi Mahj Modi Sind Takr Tirh",
    "a836.1 1"),
  ("Deva Dogr Gujr Guru Khoj Kthi Mahj Modi Shrd Sind Takr Tirh",
    "a838"),
  ("Beng Deva Tutg",
    "a8f1"),
  ("Deva Taml",
    "a8f3"),
  ("Kali Latn Mymr",
    "a92e"),
  ("Bugi Java",
    "a9cf"),
  ("Arab Nkoo",
    "fd3e.1"),
  ("Arab Thaa",
    "fdf2 a"),
  ("Cpmn Cprt Linb",
    "10100.1"),
  ("Cprt Linb",
    "10102 34.8"),
  ("Cprt Lina Linb",
    "10107.2c"),
  ("Arab Copt",
    "102e0.1b"),
  ("Mani Ougr",
    "10af2")]

end Redraft.Unicode
