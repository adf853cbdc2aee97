/-!
The script of every Unicode code point, as runs in code point order, the code points that more
scripts than their own use, and the names of scripts. A run is its length in decimal, left out when
it is one, and the four letters of its script.
-/

namespace TypingBundle.Text

/-- The runs of equal script, from code point zero upwards. -/
def scriptRuns : List String := [
  "65Zyyy26Latn6Zyyy26Latn47ZyyyLatn15ZyyyLatn5Zyyy23LatnZyyy31LatnZyyy449Latn39Zyyy5Latn5Zyyy",
  "2Bopo20Zyyy112Zinh4GrekZyyy3Grek2Zzzz4GrekZyyyGrek4ZzzzGrekZyyyGrekZyyy3GrekZzzzGrekZzzz20Grek",
  "Zzzz63Grek14Copt16Grek133Cyrl2Zinh169CyrlZzzz38Armn2Zzzz50Armn2Zzzz3ArmnZzzz55Hebr8Zzzz27Hebr",
  "4Zzzz6Hebr11Zzzz5ArabZyyy6ArabZyyy14ArabZyyy3ArabZyyy32ArabZyyy10Arab11Zinh26ArabZinh108Arab",
  "Zyyy34Arab14SyrcZzzz60Syrc2Zzzz3Syrc48Arab50Thaa14Zzzz59Nkoo2Zzzz3Nkoo46Samr2Zzzz15SamrZzzz",
  "28Mand2ZzzzMandZzzz11Syrc5Zzzz31ArabZzzz2Arab5Zzzz75ArabZyyy29Arab81Deva4Zinh15Deva2Zyyy26Deva",
  "4BengZzzz8Beng2Zzzz2Beng2Zzzz22BengZzzz7BengZzzzBeng3Zzzz4Beng2Zzzz9Beng2Zzzz2Beng2Zzzz4Beng",
  "8ZzzzBeng4Zzzz2BengZzzz5Beng2Zzzz25Beng2Zzzz3GuruZzzz6Guru4Zzzz2Guru2Zzzz22GuruZzzz7GuruZzzz",
  "2GuruZzzz2GuruZzzz2Guru2ZzzzGuruZzzz5Guru4Zzzz2Guru2Zzzz3Guru3ZzzzGuru7Zzzz4GuruZzzzGuru7Zzzz",
  "17Guru10Zzzz3GujrZzzz9GujrZzzz3GujrZzzz22GujrZzzz7GujrZzzz2GujrZzzz5Gujr2Zzzz10GujrZzzz3Gujr",
  "Zzzz3Gujr2ZzzzGujr15Zzzz4Gujr2Zzzz12Gujr7Zzzz7GujrZzzz3OryaZzzz8Orya2Zzzz2Orya2Zzzz22OryaZzzz",
  "7OryaZzzz2OryaZzzz5Orya2Zzzz9Orya2Zzzz2Orya2Zzzz3Orya7Zzzz3Orya4Zzzz2OryaZzzz5Orya2Zzzz18Orya",
  "10Zzzz2TamlZzzz6Taml3Zzzz3TamlZzzz4Taml3Zzzz2TamlZzzzTamlZzzz2Taml3Zzzz2Taml3Zzzz3Taml3Zzzz",
  "12Taml4Zzzz5Taml3Zzzz3TamlZzzz4Taml2ZzzzTaml6ZzzzTaml14Zzzz21Taml5Zzzz13TeluZzzz3TeluZzzz",
  "23TeluZzzz16Telu2Zzzz9TeluZzzz3TeluZzzz4Telu7Zzzz2TeluZzzz3Telu2ZzzzTelu2Zzzz4Telu2Zzzz10Telu",
  "7Zzzz9Telu13KndaZzzz3KndaZzzz23KndaZzzz10KndaZzzz5Knda2Zzzz9KndaZzzz3KndaZzzz4Knda7Zzzz2Knda",
  "6Zzzz2KndaZzzz4Knda2Zzzz10KndaZzzz3Knda12Zzzz13MlymZzzz3MlymZzzz51MlymZzzz3MlymZzzz6Mlym4Zzzz",
  "16Mlym2Zzzz26MlymZzzz3SinhZzzz18Sinh3Zzzz24SinhZzzz9SinhZzzzSinh2Zzzz7Sinh3ZzzzSinh4Zzzz6Sinh",
  "ZzzzSinhZzzz8Sinh6Zzzz10Sinh2Zzzz3Sinh12Zzzz58Thai4ZzzzZyyy28Thai37Zzzz2LaooZzzzLaooZzzz5Laoo",
  "Zzzz24LaooZzzzLaooZzzz23Laoo2Zzzz5LaooZzzzLaooZzzz7LaooZzzz10Laoo2Zzzz4Laoo32Zzzz72TibtZzzz",
  "36Tibt4Zzzz39TibtZzzz36TibtZzzz15TibtZzzz7Tibt4Zyyy2Tibt37Zzzz160Mymr38GeorZzzzGeor5ZzzzGeor",
  "2Zzzz43GeorZyyy4Geor256Hang73EthiZzzz4Ethi2Zzzz7EthiZzzzEthiZzzz4Ethi2Zzzz41EthiZzzz4Ethi2Zzzz",
  "33EthiZzzz4Ethi2Zzzz7EthiZzzzEthiZzzz4Ethi2Zzzz15EthiZzzz57EthiZzzz4Ethi2Zzzz67Ethi2Zzzz32Ethi",
  "3Zzzz26Ethi6Zzzz86Cher2Zzzz6Cher2Zzzz640Cans29Ogam3Zzzz75Runr3Zyyy11Runr7Zzzz22Tglg9ZzzzTglg",
  "21Hano2Zyyy9Zzzz20Buhd12Zzzz13TagbZzzz3TagbZzzz2Tagb12Zzzz94Khmr2Zzzz10Khmr6Zzzz10Khmr6Zzzz",
  "2Mong2ZyyyMongZyyy20Mong6Zzzz89Mong7Zzzz43Mong5Zzzz70Cans10Zzzz31LimbZzzz12Limb4Zzzz12Limb",
  "4ZzzzLimb3Zzzz12Limb30Tale2Zzzz5Tale11Zzzz44Talu4Zzzz26Talu6Zzzz11Talu3Zzzz2Talu32Khmr28Bugi",
  "2Zzzz2Bugi63LanaZzzz29Lana2Zzzz11Lana6Zzzz10Lana6Zzzz14Lana2Zzzz31Zinh49Zzzz77BaliZzzz50Bali",
  "64Sund52Batk8Zzzz4Batk56Lepc3Zzzz15Lepc3Zzzz3Lepc48Olck11Cyrl5Zzzz43Geor2Zzzz3Geor8Sund8Zzzz",
  "3ZinhZyyy13ZinhZyyy7Zinh4ZyyyZinh6ZyyyZinh3Zyyy2ZinhZyyy5Zzzz38Latn5GrekCyrl49Latn5Grek4Latn",
  "5Grek13LatnCyrl70LatnGrek64Zinh256Latn22Grek2Zzzz6Grek2Zzzz38Grek2Zzzz6Grek2Zzzz8GrekZzzzGrek",
  "ZzzzGrekZzzzGrekZzzz31Grek2Zzzz53GrekZzzz15GrekZzzz14Grek2Zzzz6GrekZzzz19Grek2Zzzz3GrekZzzz",
  "9GrekZzzz12Zyyy2Zinh87ZyyyZzzz11ZyyyLatn2Zzzz11ZyyyLatn15ZyyyZzzz13Latn3Zzzz33Zyyy15Zzzz33Zinh",
  "15Zzzz38ZyyyGrek3Zyyy2Latn6ZyyyLatn27ZyyyLatn17Zyyy41Latn3Zyyy4Zzzz666Zyyy22Zzzz11Zyyy21Zzzz",
  "928Zyyy256Brai628Zyyy2Zzzz32ZyyyZzzz105Zyyy96Glag32Latn116Copt5Zzzz7Copt38GeorZzzzGeor5Zzzz",
  "Geor2Zzzz56Tfng7Zzzz2Tfng14ZzzzTfng23Ethi9Zzzz7EthiZzzz7EthiZzzz7EthiZzzz7EthiZzzz7EthiZzzz",
  "7EthiZzzz7EthiZzzz7EthiZzzz32Cyrl94Zyyy34Zzzz26HaniZzzz89Hani12Zzzz214Hani26Zzzz21ZyyyHaniZyyy",
  "Hani25Zyyy9Hani4Zinh2Hang8Zyyy4Hani4ZyyyZzzz86Hira2Zzzz2Zinh2Zyyy3HiraZyyy90Kana2Zyyy3Kana",
  "5Zzzz43BopoZzzz94HangZzzz16Zyyy32Bopo38Zyyy9ZzzzZyyy16Kana31HangZzzz64Zyyy31Hang81Zyyy47Kana",
  "Zyyy88Kana168Zyyy6592Hani64Zyyy20992Hani1165Yiii3Zzzz55Yiii9Zzzz48Lisu300Vaii20Zzzz96Cyrl",
  "88Bamu8Zzzz34Zyyy102Latn3Zyyy67Latn2Zzzz2LatnZzzzLatnZzzz8Latn21Zzzz14Latn45Sylo3Zzzz10Zyyy",
  "6Zzzz56Phag8Zzzz70Saur8Zzzz12Saur6Zzzz32Deva46KaliZyyyKali36Rjng11ZzzzRjng29Hang3Zzzz78Java",
  "ZzzzZyyy10Java4Zzzz2Java31MymrZzzz55Cham9Zzzz14Cham2Zzzz10Cham2Zzzz4Cham32Mymr67Tavt24Zzzz",
  "5Tavt23Mtei10Zzzz6Ethi2Zzzz6Ethi2Zzzz6Ethi9Zzzz7EthiZzzz7EthiZzzz43LatnZyyy9LatnGrek4Latn2Zyyy",
  "4Zzzz80Cher46Mtei2Zzzz10Mtei6Zzzz11172Hang12Zzzz23Hang4Zzzz49Hang8452Zzzz366Hani2Zzzz106Hani",
  "38Zzzz7Latn12Zzzz5Armn5Zzzz26HebrZzzz5HebrZzzzHebrZzzz2HebrZzzz2HebrZzzz10Hebr115Arab16Zzzz",
  "363Arab2Zyyy80Arab2Zzzz54Arab7ZzzzArab32Zzzz16Arab16Zinh10Zyyy6Zzzz14Zinh2Cyrl35ZyyyZzzz19Zyyy",
  "Zzzz4Zyyy4Zzzz5ArabZzzz135Arab2ZzzzZyyyZzzz32Zyyy26Latn6Zyyy26Latn11Zyyy10KanaZyyy45Kana2Zyyy",
  "31Hang3Zzzz6Hang2Zzzz6Hang2Zzzz6Hang2Zzzz3Hang3Zzzz7ZyyyZzzz7Zyyy10Zzzz5Zyyy2Zzzz12LinbZzzz",
  "26LinbZzzz19LinbZzzz2LinbZzzz15Linb2Zzzz14Linb34Zzzz123Linb5Zzzz3Zyyy4Zzzz45Zyyy3Zzzz9Zyyy",
  "79GrekZzzz13Zyyy3ZzzzGrek47Zzzz45ZyyyZinh130Zzzz29Lyci3Zzzz49Cari15ZzzzZinh27Zyyy4Zzzz36Ital",
  "9Zzzz3Ital27Goth5Zzzz43Perm5Zzzz30UgarZzzzUgar36Xpeo4Zzzz14Xpeo42Zzzz80Dsrt48Shaw30Osma2Zzzz",
  "10Osma6Zzzz36Osge4Zzzz36Osge4Zzzz40Elba8Zzzz52Aghb11ZzzzAghb11VithZzzz15VithZzzz7VithZzzz2Vith",
  "Zzzz11VithZzzz15VithZzzz7VithZzzz2Vith3Zzzz52Todr12Zzzz311Lina9Zzzz22Lina10Zzzz8Lina24Zzzz",
  "6LatnZzzz42LatnZzzz9Latn69Zzzz6Cprt2ZzzzCprtZzzz44CprtZzzz2Cprt3ZzzzCprt2ZzzzCprt22ArmiZzzz",
  "9Armi32Palm31Nbat8Zzzz9Nbat48Zzzz19HatrZzzz2Hatr5Zzzz5Hatr28Phnx3ZzzzPhnx26Lydi5ZzzzLydi64Zzzz",
  "32Mero24Merc4Zzzz20Merc2Zzzz46Merc4KharZzzz2Khar5Zzzz8KharZzzz3KharZzzz29Khar2Zzzz3Khar4Zzzz",
  "10Khar7Zzzz9Khar7Zzzz32Sarb32Narb32Zzzz39Mani4Zzzz12Mani9Zzzz54Avst3Zzzz7Avst22Prti2Zzzz8Prti",
  "19Phli5Zzzz8Phli18Phlp7Zzzz4Phlp12Zzzz7Phlp80Zzzz73Orkh55Zzzz51Hung13Zzzz51Hung7Zzzz6Hung",
  "40Rohg8Zzzz10Rohg6Zzzz38Gara3Zzzz29Gara8Zzzz2Gara208Zzzz31ArabZzzz42YeziZzzz3Yezi2Zzzz2Yezi",
  "16Zzzz3Arab55Zzzz4Arab40Sogo8Zzzz42Sogd22Zzzz26Ougr38Zzzz28Chrs20Zzzz23Elym9Zzzz78Brah4Zzzz",
  "36Brah9ZzzzBrah67Kthi10ZzzzKthi2Zzzz25Sora7Zzzz10Sora6Zzzz53CakmZzzz18Cakm8Zzzz39Mahj9Zzzz",
  "96ShrdZzzz20Sinh11Zzzz18KhojZzzz47Khoj62Zzzz7MultZzzzMultZzzz4MultZzzz15MultZzzz11Mult6Zzzz",
  "59Sind5Zzzz10Sind6Zzzz4GranZzzz8Gran2Zzzz2Gran2Zzzz22GranZzzz7GranZzzz2GranZzzz5GranZzzzZinh",
  "9Gran2Zzzz2Gran2Zzzz3Gran2ZzzzGran6ZzzzGran5Zzzz7Gran2Zzzz7Gran3Zzzz5Gran11Zzzz10TutgZzzzTutg",
  "2ZzzzTutgZzzz38TutgZzzz10TutgZzzzTutg2ZzzzTutgZzzz4TutgZzzz10TutgZzzz2Tutg8Zzzz2Tutg29Zzzz",
  "92NewaZzzz5Newa30Zzzz72Tirh8Zzzz10Tirh166Zzzz54Sidd2Zzzz38Sidd34Zzzz69Modi11Zzzz10Modi6Zzzz",
  "13Mong19Zzzz58Takr6Zzzz10Takr6Zzzz20Mymr28Zzzz27Ahom2Zzzz15Ahom4Zzzz23Ahom185Zzzz60Dogr100Zzzz",
  "83Wara12ZzzzWara7Diak2ZzzzDiak2Zzzz8DiakZzzz2DiakZzzz30DiakZzzz2Diak2Zzzz12Diak9Zzzz10Diak",
  "70Zzzz8Nand2Zzzz46Nand2Zzzz11Nand27Zzzz72Zanb8Zzzz83Soyo13Zzzz16Cans57Pauc7Zzzz10Deva182Zzzz",
  "34Sunu14Zzzz10Sunu6Zzzz9BhksZzzz45BhksZzzz14Bhks10Zzzz29Bhks3Zzzz32Marc2Zzzz22MarcZzzz14Marc",
  "73Zzzz7GonmZzzz2GonmZzzz44Gonm3ZzzzGonmZzzz2GonmZzzz9Gonm8Zzzz10Gonm6Zzzz6GongZzzz2GongZzzz",
  "37GongZzzz2GongZzzz6Gong7Zzzz10Gong310Zzzz25Maka7Zzzz17KawiZzzz41Kawi3Zzzz29Kawi85ZzzzLisu",
  "15Zzzz50Taml13ZzzzTaml922Xsux102Zzzz111XsuxZzzz5Xsux11Zzzz196Xsux2636Zzzz99Cpmn13Zzzz1110Egyp",
  "10Zzzz3995Egyp5Zzzz583Hluw6841Zzzz58Gukh1734Zzzz569Bamu7Zzzz31MrooZzzz10Mroo4Zzzz2Mroo79Tnsa",
  "Zzzz10Tnsa6Zzzz30Bass2Zzzz6Bass10Zzzz70Hmng10Zzzz10HmngZzzz7HmngZzzz21Hmng5Zzzz19Hmng432Zzzz",
  "58Krai198Zzzz91Medf101Zzzz75Plrd4Zzzz57Plrd7Zzzz17Plrd64ZzzzTangNshu2HaniKits11Zzzz2Hani14Zzzz",
  "6136Tang8Zzzz768Tang470Kits41ZzzzKits9Tang8935Zzzz4KanaZzzz7KanaZzzz2KanaZzzzKana287Hira3Kana",
  "15ZzzzHira29Zzzz3Hira2ZzzzKana14Zzzz4Kana8Zzzz396Nshu2308Zzzz107Dupl5Zzzz13Dupl3Zzzz9Dupl7Zzzz",
  "10Dupl2Zzzz4Dupl4Zyyy3932Zzzz250Zyyy6Zzzz436Zyyy76Zzzz46Zinh2Zzzz23Zinh9Zzzz116Zyyy60Zzzz",
  "246Zyyy10Zzzz39Zyyy2Zzzz62Zyyy3Zinh17Zyyy8Zinh2Zyyy7Zinh30Zyyy4Zinh61Zyyy21Zzzz70Grek122Zzzz",
  "20Zyyy12Zzzz20Zyyy12Zzzz87Zyyy9Zzzz25Zyyy135Zzzz85ZyyyZzzz71ZyyyZzzz2Zyyy2ZzzzZyyy2Zzzz2Zyyy",
  "2Zzzz4ZyyyZzzz12ZyyyZzzzZyyyZzzz7ZyyyZzzz65ZyyyZzzz4Zyyy2Zzzz8ZyyyZzzz7ZyyyZzzz28ZyyyZzzz4Zyyy",
  "Zzzz5ZyyyZzzzZyyy3Zzzz7ZyyyZzzz340Zyyy2Zzzz292Zyyy2Zzzz50Zyyy652Sgnw15Zzzz5SgnwZzzz15Sgnw",
  "1104Zzzz31Latn6Zzzz6Latn213Zzzz7GlagZzzz17Glag2Zzzz7GlagZzzz2GlagZzzz5Glag5Zzzz62Cyrl33Zzzz",
  "Cyrl112Zzzz45Hmnp3Zzzz14Hmnp2Zzzz10Hmnp4Zzzz2Hmnp320Zzzz31Toto17Zzzz58Wcho5ZzzzWcho464Zzzz",
  "42Nagm214Zzzz43Onao4ZzzzOnao480Zzzz7EthiZzzz4EthiZzzz2EthiZzzz15EthiZzzz197Mend2Zzzz16Mend",
  "41Zzzz76Adlm4Zzzz10Adlm4Zzzz2Adlm785Zzzz68Zyyy76Zzzz61Zyyy194Zzzz4ArabZzzz27ArabZzzz2ArabZzzz",
  "Arab2ZzzzArabZzzz10ArabZzzz4ArabZzzzArabZzzzArab6ZzzzArab4ZzzzArabZzzzArabZzzzArabZzzz3Arab",
  "Zzzz2ArabZzzzArab2ZzzzArabZzzzArabZzzzArabZzzzArabZzzzArabZzzz2ArabZzzzArab2Zzzz4ArabZzzz7Arab",
  "Zzzz4ArabZzzz4ArabZzzzArabZzzz10ArabZzzz17Arab5Zzzz3ArabZzzz5ArabZzzz17Arab52Zzzz2Arab270Zzzz",
  "44Zyyy4Zzzz100Zyyy12Zzzz15Zyyy2Zzzz15ZyyyZzzz15ZyyyZzzz37Zyyy10Zzzz174Zyyy56Zzzz26ZyyyHira",
  "2Zyyy13Zzzz44Zyyy4Zzzz9Zyyy7Zzzz2Zyyy14Zzzz6Zyyy154Zzzz984Zyyy4Zzzz17Zyyy3Zzzz13Zyyy3Zzzz",
  "119Zyyy4Zzzz95Zyyy6Zzzz12Zyyy4ZzzzZyyy15Zzzz12Zyyy4Zzzz56Zyyy8Zzzz10Zyyy6Zzzz40Zyyy8Zzzz30Zyyy",
  "2Zzzz12Zyyy4Zzzz2Zyyy62Zzzz340Zyyy12Zzzz14Zyyy2Zzzz13Zyyy3Zzzz10Zyyy5Zzzz56Zyyy7Zzzz15Zyyy",
  "2Zzzz11Zyyy6Zzzz9Zyyy7Zzzz147ZyyyZzzz102Zyyy1030Zzzz42720Hani32Zzzz4154Hani6Zzzz222Hani2Zzzz",
  "5762Hani14Zzzz7473Hani15Zzzz622Hani2466Zzzz542Hani1506Zzzz4939Hani5Zzzz4192Hani711761ZzzzZyyy",
  "30Zzzz96Zyyy128Zzzz240Zinh196112Zzzz"]

/-- Ranges of code points that other scripts use than the one they belong to, with the four letters
of each script that uses them. -/
def scriptExtensions : List (Nat × Nat × String) := [
  (0xB7, 0xB7, "AvstCariCoptDuplElbaGeorGlagGongGothGrekHaniLatnLydiMahjPermShaw"),
  (0x2BC, 0x2BC, "BengCyrlDevaLatnLisuThaiToto"),
  (0x2C7, 0x2C7, "BopoLatn"),
  (0x2C9, 0x2CB, "BopoLatn"),
  (0x2CD, 0x2CD, "LatnLisu"),
  (0x2D7, 0x2D7, "LatnThai"),
  (0x2D9, 0x2D9, "BopoLatn"),
  (0x300, 0x300, "CherCoptCyrlGrekLatnPermSunuTale"),
  (0x301, 0x301, "CherCyrlGrekLatnOsgeSunuTaleTodr"),
  (0x302, 0x302, "CherCyrlLatnTfng"),
  (0x303, 0x303, "GlagLatnSunuSyrcThai"),
  (0x304, 0x304, "AghbCherCoptCyrlGothGrekLatnOsgeSyrcTfngTodr"),
  (0x305, 0x305, "CoptElbaGlagGothKanaLatn"),
  (0x306, 0x306, "CyrlGrekLatnPermTfng"),
  (0x307, 0x307, "CoptDuplHebrLatnPermSyrcTaleTfngTodr"),
  (0x308, 0x308, "ArmnCyrlDuplGothGrekHebrLatnPermSyrcTaleTfng"),
  (0x309, 0x309, "LatnTfng"),
  (0x30A, 0x30A, "DuplLatnSyrc"),
  (0x30B, 0x30B, "CherCyrlLatnOsge"),
  (0x30C, 0x30C, "CherLatnTale"),
  (0x30D, 0x30D, "LatnSunu"),
  (0x30E, 0x30E, "EthiLatn"),
  (0x310, 0x310, "LatnSunu"),
  (0x311, 0x311, "CyrlLatnTodr"),
  (0x313, 0x313, "GrekLatnPermTodr"),
  (0x323, 0x323, "CherDuplKanaLatnSyrcTfng"),
  (0x324, 0x324, "CherDuplLatnSyrc"),
  (0x325, 0x325, "LatnSyrc"),
  (0x32D, 0x32D, "LatnSunuSyrc"),
  (0x32E, 0x32E, "LatnSyrc"),
  (0x330, 0x330, "CherLatnSyrc"),
  (0x331, 0x331, "AghbCherGothLatnSunuSyrcThai"),
  (0x342, 0x342, "Grek"),
  (0x345, 0x345, "Grek"),
  (0x358, 0x358, "LatnOsge"),
  (0x35E, 0x35E, "AghbLatnTodr"),
  (0x363, 0x36F, "Latn"),
  (0x374, 0x375, "CoptGrek"),
  (0x483, 0x483, "CyrlPerm"),
  (0x484, 0x484, "CyrlGlag"),
  (0x485, 0x486, "CyrlLatn"),
  (0x487, 0x487, "CyrlGlag"),
  (0x589, 0x589, "ArmnGeorGlag"),
  (0x60C, 0x60C, "ArabGaraNkooRohgSyrcThaaYezi"),
  (0x61B, 0x61B, "ArabGaraNkooRohgSyrcThaaYezi"),
  (0x61C, 0x61C, "ArabSyrcThaa"),
  (0x61F, 0x61F, "AdlmArabGaraNkooRohgSyrcThaaYezi"),
  (0x640, 0x640, "AdlmArabMandManiOugrPhlpRohgSogdSyrc"),
  (0x64B, 0x655, "ArabSyrc"),
  (0x660, 0x669, "ArabThaaYezi"),
  (0x670, 0x670, "ArabSyrc"),
  (0x6D4, 0x6D4, "ArabRohg"),
  (0x951, 0x951, "BengDevaGranGujrGuruKndaLatnMlymNandNewaOryaShrdTamlTeluTirh"),
  (0x952, 0x952, "BengDevaGranGujrGuruKndaLatnMlymNewaOryaTamlTeluTirh"),
  (0x964, 0x964,
    "BengDevaDogrGongGonmGranGujrGuruKndaMahjMlymNandOnaoOryaSindSinhSyloTakrTamlTeluTirh"),
  (0x965, 0x965,
    "BengDevaDogrGongGonmGranGujrGukhGuruKndaLimbMahjMlymNandOnaoOryaSindSinhSyloTakrTamlTeluTirh"),
  (0x966, 0x96F, "DevaDogrKthiMahj"),
  (0x9E6, 0x9EF, "BengCakmSylo"),
  (0xA66, 0xA6F, "GuruMult"),
  (0xAE6, 0xAEF, "GujrKhoj"),
  (0xBE6, 0xBF3, "GranTaml"),
  (0xCE6, 0xCEF, "KndaNandTutg"),
  (0x1040, 0x1049, "CakmMymrTale"),
  (0x10FB, 0x10FB, "GeorGlagLatn"),
  (0x16EB, 0x16ED, "Runr"),
  (0x1735, 0x1736, "BuhdHanoTagbTglg"),
  (0x1802, 0x1803, "MongPhag"),
  (0x1805, 0x1805, "MongPhag"),
  (0x1CD0, 0x1CD0, "BengDevaGranKnda"),
  (0x1CD1, 0x1CD1, "Deva"),
  (0x1CD2, 0x1CD2, "BengDevaGranKnda"),
  (0x1CD3, 0x1CD3, "DevaGranKnda"),
  (0x1CD4, 0x1CD4, "Deva"),
  (0x1CD5, 0x1CD5, "BengDevaNewaTeluTirh"),
  (0x1CD6, 0x1CD6, "BengDevaTelu"),
  (0x1CD7, 0x1CD7, "DevaNewaShrd"),
  (0x1CD8, 0x1CD8, "BengDevaNewaTelu"),
  (0x1CD9, 0x1CD9, "DevaShrd"),
  (0x1CDA, 0x1CDA, "DevaKndaMlymOryaTamlTelu"),
  (0x1CDB, 0x1CDB, "Deva"),
  (0x1CDC, 0x1CDD, "DevaShrd"),
  (0x1CDE, 0x1CDF, "Deva"),
  (0x1CE0, 0x1CE0, "DevaShrd"),
  (0x1CE1, 0x1CE1, "BengDeva"),
  (0x1CE2, 0x1CE2, "DevaNewaTirh"),
  (0x1CE3, 0x1CE8, "Deva"),
  (0x1CE9, 0x1CE9, "DevaNandNewa"),
  (0x1CEA, 0x1CEA, "BengDevaShrd"),
  (0x1CEB, 0x1CEB, "DevaNewa"),
  (0x1CEC, 0x1CEC, "Deva"),
  (0x1CED, 0x1CED, "BengDevaNewaShrd"),
  (0x1CEE, 0x1CF1, "Deva"),
  (0x1CF2, 0x1CF2, "BengDevaGranKndaMlymNandOryaSinhTeluTirhTutg"),
  (0x1CF3, 0x1CF3, "DevaGran"),
  (0x1CF4, 0x1CF4, "DevaGranKndaTutg"),
  (0x1CF5, 0x1CF6, "BengDeva"),
  (0x1CF7, 0x1CF7, "Beng"),
  (0x1CF8, 0x1CF9, "DevaGran"),
  (0x1CFA, 0x1CFA, "Nand"),
  (0x1DC0, 0x1DC1, "Grek"),
  (0x1DF8, 0x1DF8, "CyrlLatnSyrc"),
  (0x1DFA, 0x1DFA, "Syrc"),
  (0x202F, 0x202F, "LatnMongPhag"),
  (0x204F, 0x204F, "AdlmArab"),
  (0x205A, 0x205A, "CariGeorGlagHungLyciOrkh"),
  (0x205D, 0x205D, "CariGrekHungMero"),
  (0x20F0, 0x20F0, "DevaGranLatn"),
  (0x2E17, 0x2E17, "CoptLatn"),
  (0x2E30, 0x2E30, "AvstOrkh"),
  (0x2E31, 0x2E31, "AvstCariGeorHungKthiLydiSamr"),
  (0x2E3C, 0x2E3C, "Dupl"),
  (0x2E41, 0x2E41, "AdlmArabHung"),
  (0x2E43, 0x2E43, "CyrlGlag"),
  (0x2FF0, 0x2FFF, "HaniTang"),
  (0x3001, 0x3001, "BopoHangHaniHiraKanaMongYiii"),
  (0x3002, 0x3002, "BopoHangHaniHiraKanaMongPhagYiii"),
  (0x3003, 0x3003, "BopoHangHaniHiraKana"),
  (0x3006, 0x3006, "Hani"),
  (0x3008, 0x3009, "BopoHangHaniHiraKanaMongTibtYiii"),
  (0x300A, 0x300B, "BopoHangHaniHiraKanaLisuMongTibtYiii"),
  (0x300C, 0x3011, "BopoHangHaniHiraKanaYiii"),
  (0x3013, 0x3013, "BopoHangHaniHiraKana"),
  (0x3014, 0x301B, "BopoHangHaniHiraKanaYiii"),
  (0x301C, 0x301F, "BopoHangHaniHiraKana"),
  (0x302A, 0x302D, "BopoHani"),
  (0x3030, 0x3030, "BopoHangHaniHiraKana"),
  (0x3031, 0x3035, "HiraKana"),
  (0x3037, 0x3037, "BopoHangHaniHiraKana"),
  (0x303C, 0x303D, "HaniHiraKana"),
  (0x303E, 0x303F, "Hani"),
  (0x3099, 0x309C, "HiraKana"),
  (0x30A0, 0x30A0, "HiraKana"),
  (0x30FB, 0x30FB, "BopoHangHaniHiraKanaYiii"),
  (0x30FC, 0x30FC, "HiraKana"),
  (0x3190, 0x319F, "Hani"),
  (0x31C0, 0x31E5, "Hani"),
  (0x31EF, 0x31EF, "HaniTang"),
  (0x3220, 0x3247, "Hani"),
  (0x3280, 0x32B0, "Hani"),
  (0x32C0, 0x32CB, "Hani"),
  (0x32FF, 0x32FF, "Hani"),
  (0x3358, 0x3370, "Hani"),
  (0x337B, 0x337F, "Hani"),
  (0x33E0, 0x33FE, "Hani"),
  (0xA66F, 0xA66F, "CyrlGlag"),
  (0xA700, 0xA707, "HaniLatn"),
  (0xA830, 0xA832, "DevaDogrGujrGuruKhojKndaKthiMahjMlymModiNandShrdSindTakrTirhTutg"),
  (0xA833, 0xA835, "DevaDogrGujrGuruKhojKndaKthiMahjModiNandShrdSindTakrTirhTutg"),
  (0xA836, 0xA837, "DevaDogrGujrGuruKhojKthiMahjModiSindTakrTirh"),
  (0xA838, 0xA838, "DevaDogrGujrGuruKhojKthiMahjModiShrdSindTakrTirh"),
  (0xA839, 0xA839, "DevaDogrGujrGuruKhojKthiMahjModiSindTakrTirh"),
  (0xA8F1, 0xA8F1, "BengDevaTutg"),
  (0xA8F3, 0xA8F3, "DevaTaml"),
  (0xA92E, 0xA92E, "KaliLatnMymr"),
  (0xA9CF, 0xA9CF, "BugiJava"),
  (0xFD3E, 0xFD3F, "ArabNkoo"),
  (0xFDF2, 0xFDF2, "ArabThaa"),
  (0xFDFD, 0xFDFD, "ArabThaa"),
  (0xFE45, 0xFE46, "BopoHangHaniHiraKana"),
  (0xFF61, 0xFF65, "BopoHangHaniHiraKanaYiii"),
  (0xFF70, 0xFF70, "HiraKana"),
  (0xFF9E, 0xFF9F, "HiraKana"),
  (0x10100, 0x10101, "CpmnCprtLinb"),
  (0x10102, 0x10102, "CprtLinb"),
  (0x10107, 0x10133, "CprtLinaLinb"),
  (0x10137, 0x1013F, "CprtLinb"),
  (0x102E0, 0x102FB, "ArabCopt"),
  (0x10AF2, 0x10AF2, "ManiOugr"),
  (0x11301, 0x11301, "GranTaml"),
  (0x11303, 0x11303, "GranTaml"),
  (0x1133B, 0x1133C, "GranTaml"),
  (0x11FD0, 0x11FD1, "GranTaml"),
  (0x11FD3, 0x11FD3, "GranTaml"),
  (0x1BCA0, 0x1BCA3, "Dupl"),
  (0x1D360, 0x1D371, "Hani"),
  (0x1F250, 0x1F251, "Hani")]

/-- The four letters and the name of each script that has characters, the name without case and
separators. -/
def scriptNames : List (String × String) := [
  ("Adlm", "adlam"), ("Aghb", "caucasianalbanian"), ("Ahom", "ahom"), ("Arab", "arabic"),
  ("Armi", "imperialaramaic"), ("Armn", "armenian"), ("Avst", "avestan"), ("Bali", "balinese"),
  ("Bamu", "bamum"), ("Bass", "bassavah"), ("Batk", "batak"), ("Beng", "bengali"),
  ("Bhks", "bhaiksuki"), ("Bopo", "bopomofo"), ("Brah", "brahmi"), ("Brai", "braille"),
  ("Bugi", "buginese"), ("Buhd", "buhid"), ("Cakm", "chakma"), ("Cans", "canadianaboriginal"),
  ("Cari", "carian"), ("Cham", "cham"), ("Cher", "cherokee"), ("Chrs", "chorasmian"),
  ("Copt", "coptic"), ("Cpmn", "cyprominoan"), ("Cprt", "cypriot"), ("Cyrl", "cyrillic"),
  ("Deva", "devanagari"), ("Diak", "divesakuru"), ("Dogr", "dogra"), ("Dsrt", "deseret"),
  ("Dupl", "duployan"), ("Egyp", "egyptianhieroglyphs"), ("Elba", "elbasan"), ("Elym", "elymaic"),
  ("Ethi", "ethiopic"), ("Gara", "garay"), ("Geor", "georgian"), ("Glag", "glagolitic"),
  ("Gong", "gunjalagondi"), ("Gonm", "masaramgondi"), ("Goth", "gothic"), ("Gran", "grantha"),
  ("Grek", "greek"), ("Gujr", "gujarati"), ("Gukh", "gurungkhema"), ("Guru", "gurmukhi"),
  ("Hang", "hangul"), ("Hani", "han"), ("Hano", "hanunoo"), ("Hatr", "hatran"), ("Hebr", "hebrew"),
  ("Hira", "hiragana"), ("Hluw", "anatolianhieroglyphs"), ("Hmng", "pahawhhmong"),
  ("Hmnp", "nyiakengpuachuehmong"), ("Hung", "oldhungarian"), ("Ital", "olditalic"),
  ("Java", "javanese"), ("Kali", "kayahli"), ("Kana", "katakana"), ("Kawi", "kawi"),
  ("Khar", "kharoshthi"), ("Khmr", "khmer"), ("Khoj", "khojki"), ("Kits", "khitansmallscript"),
  ("Knda", "kannada"), ("Krai", "kiratrai"), ("Kthi", "kaithi"), ("Lana", "taitham"),
  ("Laoo", "lao"), ("Latn", "latin"), ("Lepc", "lepcha"), ("Limb", "limbu"), ("Lina", "lineara"),
  ("Linb", "linearb"), ("Lisu", "lisu"), ("Lyci", "lycian"), ("Lydi", "lydian"),
  ("Mahj", "mahajani"), ("Maka", "makasar"), ("Mand", "mandaic"), ("Mani", "manichaean"),
  ("Marc", "marchen"), ("Medf", "medefaidrin"), ("Mend", "mendekikakui"),
  ("Merc", "meroiticcursive"), ("Mero", "meroitichieroglyphs"), ("Mlym", "malayalam"),
  ("Modi", "modi"), ("Mong", "mongolian"), ("Mroo", "mro"), ("Mtei", "meeteimayek"),
  ("Mult", "multani"), ("Mymr", "myanmar"), ("Nagm", "nagmundari"), ("Nand", "nandinagari"),
  ("Narb", "oldnortharabian"), ("Nbat", "nabataean"), ("Newa", "newa"), ("Nkoo", "nko"),
  ("Nshu", "nushu"), ("Ogam", "ogham"), ("Olck", "olchiki"), ("Onao", "olonal"),
  ("Orkh", "oldturkic"), ("Orya", "oriya"), ("Osge", "osage"), ("Osma", "osmanya"),
  ("Ougr", "olduyghur"), ("Palm", "palmyrene"), ("Pauc", "paucinhau"), ("Perm", "oldpermic"),
  ("Phag", "phagspa"), ("Phli", "inscriptionalpahlavi"), ("Phlp", "psalterpahlavi"),
  ("Phnx", "phoenician"), ("Plrd", "miao"), ("Prti", "inscriptionalparthian"), ("Rjng", "rejang"),
  ("Rohg", "hanifirohingya"), ("Runr", "runic"), ("Samr", "samaritan"),
  ("Sarb", "oldsoutharabian"), ("Saur", "saurashtra"), ("Sgnw", "signwriting"),
  ("Shaw", "shavian"), ("Shrd", "sharada"), ("Sidd", "siddham"), ("Sind", "khudawadi"),
  ("Sinh", "sinhala"), ("Sogd", "sogdian"), ("Sogo", "oldsogdian"), ("Sora", "sorasompeng"),
  ("Soyo", "soyombo"), ("Sund", "sundanese"), ("Sunu", "sunuwar"), ("Sylo", "sylotinagri"),
  ("Syrc", "syriac"), ("Tagb", "tagbanwa"), ("Takr", "takri"), ("Tale", "taile"),
  ("Talu", "newtailue"), ("Taml", "tamil"), ("Tang", "tangut"), ("Tavt", "taiviet"),
  ("Telu", "telugu"), ("Tfng", "tifinagh"), ("Tglg", "tagalog"), ("Thaa", "thaana"),
  ("Thai", "thai"), ("Tibt", "tibetan"), ("Tirh", "tirhuta"), ("Tnsa", "tangsa"),
  ("Todr", "todhri"), ("Toto", "toto"), ("Tutg", "tulutigalari"), ("Ugar", "ugaritic"),
  ("Vaii", "vai"), ("Vith", "vithkuqi"), ("Wara", "warangciti"), ("Wcho", "wancho"),
  ("Xpeo", "oldpersian"), ("Xsux", "cuneiform"), ("Yezi", "yezidi"), ("Yiii", "yi"),
  ("Zanb", "zanabazarsquare"), ("Zinh", "inherited"), ("Zyyy", "common")]

end TypingBundle.Text
