import TabCompletion.Unicode.Category

/-!
# Binary properties and classes

A property of characters is given by some categories, some properties listed before it, the
characters it has besides, and those it leaves out. From these come the classes of characters that
patterns and quoted text use: word characters, digits, blanks, and the characters that are shown as
themselves.
-/
namespace TabCompletion.Unicode

namespace Property

/-- How a property is put together; `names` are in lower case and without separators. -/
structure Recipe where
  names : List String
  categories : List String
  properties : List String
  besides : List String
  except : List String

/-- The properties, each after those it is made of. -/
def recipes : List Recipe := [
  ⟨["olower","otherlowercase"],[],[],
    ["AA BA 2B0-2B8 2C0-2C1 2E0-2E4 345 37A 10FC 1D2C-1D6A 1D78 1D9B-1DBF 2071 207F 2090-209C",
      "2170-217F 24D0-24E9 2C7C-2C7D A69C-A69D A770 A7F2-A7F4 A7F8-A7F9 AB5C-AB5F AB69 10780",
      "10783-10785 10787-107B0 107B2-107BA 1E030-1E06D"],
    []⟩,
  ⟨["lower","lowercase"],["Ll"],["otherlowercase"],
    [],
    []⟩,
  ⟨["oupper","otheruppercase"],[],[],
    ["2160-216F 24B6-24CF 1F130-1F149 1F150-1F169 1F170-1F189"],
    []⟩,
  ⟨["upper","uppercase"],["Lu"],["otheruppercase"],
    [],
    []⟩,
  ⟨["oalpha","otheralphabetic"],[],[],
    ["345 5B0-5BD 5BF 5C1-5C2 5C4-5C5 5C7 610-61A 64B-657 659-65F 670 6D6-6DC 6E1-6E4 6E7-6E8",
      "6ED 711 730-73F 7A6-7B0 816-817 81B-823 825-827 829-82C 897 8D4-8DF 8E3-8E9 8F0-903",
      "93A-93B 93E-94C 94E-94F 955-957 962-963 981-983 9BE-9C4 9C7-9C8 9CB-9CC 9D7 9E2-9E3",
      "A01-A03 A3E-A42 A47-A48 A4B-A4C A51 A70-A71 A75 A81-A83 ABE-AC5 AC7-AC9 ACB-ACC AE2-AE3",
      "AFA-AFC B01-B03 B3E-B44 B47-B48 B4B-B4C B56-B57 B62-B63 B82 BBE-BC2 BC6-BC8 BCA-BCC BD7",
      "C00-C04 C3E-C44 C46-C48 C4A-C4C C55-C56 C62-C63 C81-C83 CBE-CC4 CC6-CC8 CCA-CCC CD5-CD6",
      "CE2-CE3 CF3 D00-D03 D3E-D44 D46-D48 D4A-D4C D57 D62-D63 D81-D83 DCF-DD4 DD6 DD8-DDF",
      "DF2-DF3 E31 E34-E3A E4D EB1 EB4-EB9 EBB-EBC ECD F71-F83 F8D-F97 F99-FBC 102B-1036 1038",
      "103B-103E 1056-1059 105E-1060 1062-1064 1067-106D 1071-1074 1082-108D 108F 109A-109D",
      "1712-1713 1732-1733 1752-1753 1772-1773 17B6-17C8 1885-1886 18A9 1920-192B 1930-1938",
      "1A17-1A1B 1A55-1A5E 1A61-1A74 1ABF-1AC0 1ACC-1ACE 1B00-1B04 1B35-1B43 1B80-1B82 1BA1-1BA9",
      "1BAC-1BAD 1BE7-1BF1 1C24-1C36 1DE7-1DF4 24B6-24E9 2DE0-2DFF A674-A67B A69E-A69F A802 A80B",
      "A823-A827 A880-A881 A8B4-A8C3 A8C5 A8FF A926-A92A A947-A952 A980-A983 A9B4-A9BF A9E5",
      "AA29-AA36 AA43 AA4C-AA4D AA7B-AA7D AAB0 AAB2-AAB4 AAB7-AAB8 AABE AAEB-AAEF AAF5 ABE3-ABEA",
      "FB1E 10376-1037A 10A01-10A03 10A05-10A06 10A0C-10A0F 10D24-10D27 10D69 10EAB-10EAC 10EFC",
      "11000-11002 11038-11045 11073-11074 11080-11082 110B0-110B8 110C2 11100-11102 11127-11132",
      "11145-11146 11180-11182 111B3-111BF 111CE-111CF 1122C-11234 11237 1123E 11241 112DF-112E8",
      "11300-11303 1133E-11344 11347-11348 1134B-1134C 11357 11362-11363 113B8-113C0 113C2 113C5",
      "113C7-113CA 113CC-113CD 11435-11441 11443-11445 114B0-114C1 115AF-115B5 115B8-115BE",
      "115DC-115DD 11630-1163E 11640 116AB-116B5 1171D-1172A 1182C-11838 11930-11935 11937-11938",
      "1193B-1193C 11940 11942 119D1-119D7 119DA-119DF 119E4 11A01-11A0A 11A35-11A39 11A3B-11A3E",
      "11A51-11A5B 11A8A-11A97 11C2F-11C36 11C38-11C3E 11C92-11CA7 11CA9-11CB6 11D31-11D36 11D3A",
      "11D3C-11D3D 11D3F-11D41 11D43 11D47 11D8A-11D8E 11D90-11D91 11D93-11D96 11EF3-11EF6",
      "11F00-11F01 11F03 11F34-11F3A 11F3E-11F40 1611E-1612E 16F4F 16F51-16F87 16F8F-16F92",
      "16FF0-16FF1 1BC9E 1E000-1E006 1E008-1E018 1E01B-1E021 1E023-1E024 1E026-1E02A 1E08F 1E947",
      "1F130-1F149 1F150-1F169 1F170-1F189"],
    []⟩,
  ⟨["alpha","alphabetic"],["Lu","Ll","Lt","Lm","Lo","Nl"],
    ["otheralphabetic","otherlowercase","otheruppercase"],
    [],
    []⟩,
  ⟨["cased"],["Lt"],["lowercase","uppercase"],
    [],
    []⟩,
  ⟨["ci","caseignorable"],["Mn","Me","Cf","Lm","Sk"],[],
    ["27 2E 3A B7 387 55F 5F4 2018-2019 2024 2027 FE13 FE52 FE55 FF07 FF0E FF1A"],
    []⟩,
  ⟨["oids","otheridstart"],[],[],
    ["1885-1886 2118 212E 309B-309C"],
    []⟩,
  ⟨["ids","idstart"],["Lu","Ll","Lt","Lm","Lo","Nl"],["otheridstart"],
    [],
    ["2E2F"]⟩,
  ⟨["oidc","otheridcontinue"],[],[],
    ["B7 387 1369-1371 19DA 200C-200D 30FB FF65"],
    []⟩,
  ⟨["idc","idcontinue"],["Mn","Mc","Nd","Pc"],["idstart","otheridcontinue"],
    [],
    []⟩,
  ⟨["idcms","idcompatmathstart"],[],[],
    ["2202 2207 221E 1D6C1 1D6DB 1D6FB 1D715 1D735 1D74F 1D76F 1D789 1D7A9 1D7C3"],
    []⟩,
  ⟨["idcmc","idcompatmathcontinue"],[],["idcompatmathstart"],
    ["B2-B3 B9 2070 2074-207E 2080-208E"],
    []⟩,
  ⟨["xids","xidstart"],[],["idstart"],
    [],
    ["37A E33 EB3 309B-309C FC5E-FC63 FDFA-FDFB FE70 FE72 FE74 FE76 FE78 FE7A FE7C FE7E",
      "FF9E-FF9F"]⟩,
  ⟨["xidc","xidcontinue"],[],["idcontinue"],
    [],
    ["37A 309B-309C FC5E-FC63 FDFA-FDFB FE70 FE72 FE74 FE76 FE78 FE7A FE7C FE7E"]⟩,
  ⟨["ogrext","othergraphemeextend"],[],[],
    ["9BE 9D7 B3E B57 BBE BD7 CC0 CC2 CC7-CC8 CCA-CCB CD5-CD6 D3E D57 DCF DDF 1715 1734 1B35",
      "1B3B 1B3D 1B43-1B44 1BAA 1BF2-1BF3 200C 302E-302F A953 A9C0 FF9E-FF9F 111C0 11235 1133E",
      "1134D 11357 113B8 113C2 113C5 113C7-113C9 113CF 114B0 114BD 115AF 116B6 11930 1193D 11F41",
      "16FF0-16FF1 1D165-1D166 1D16D-1D172 E0020-E007F"],
    []⟩,
  ⟨["grext","graphemeextend"],["Mn","Me"],["othergraphemeextend"],
    [],
    []⟩,
  ⟨["grbase","graphemebase"],
    ["Lu","Ll","Lt","Lm","Lo","Mc","Nd","Nl","No","Pc","Pd",
      "Ps","Pe","Pi","Pf","Po","Sm","Sc","Sk","So","Zs"],
    [],
    [],
    ["9BE 9D7 B3E B57 BBE BD7 CC0 CC2 CC7-CC8 CCA-CCB CD5-CD6 D3E D57 DCF DDF 1715 1734 1B35",
      "1B3B 1B3D 1B43-1B44 1BAA 1BF2-1BF3 302E-302F A953 A9C0 FF9E-FF9F 111C0 11235 1133E 1134D",
      "11357 113B8 113C2 113C5 113C7-113C9 113CF 114B0 114BD 115AF 116B6 11930 1193D 11F41",
      "16FF0-16FF1 1D165-1D166 1D16D-1D172"]⟩,
  ⟨["grlink","graphemelink"],[],[],
    ["94D 9CD A4D ACD B4D BCD C4D CCD D3B-D3C D4D DCA E3A EBA F84 1039-103A 1714-1715 1734 17D2",
      "1A60 1B44 1BAA-1BAB 1BF2-1BF3 2D7F A806 A82C A8C4 A953 A9C0 AAF6 ABED 10A3F 11046 11070",
      "1107F 110B9 11133-11134 111C0 11235 112EA 1134D 113CE-113D0 11442 114C2 115BF 1163F 116B6",
      "1172B 11839 1193D-1193E 119E0 11A34 11A47 11A99 11C3F 11D44-11D45 11D97 11F41-11F42 1612F"],
    []⟩,
  ⟨["cwl","changeswhenlowercased"],["Lu","Lt"],[],
    ["2160-216F 24B6-24CF"],
    ["3D2-3D4 2102 2107 210B-210D 2110-2112 2115 2119-211D 2124 2128 212C-212D 2130-2131 2133",
      "213E-213F 2145 1D400-1D419 1D434-1D44D 1D468-1D481 1D49C 1D49E-1D49F 1D4A2 1D4A5-1D4A6",
      "1D4A9-1D4AC 1D4AE-1D4B5 1D4D0-1D4E9 1D504-1D505 1D507-1D50A 1D50D-1D514 1D516-1D51C",
      "1D538-1D539 1D53B-1D53E 1D540-1D544 1D546 1D54A-1D550 1D56C-1D585 1D5A0-1D5B9 1D5D4-1D5ED",
      "1D608-1D621 1D63C-1D655 1D670-1D689 1D6A8-1D6C0 1D6E2-1D6FA 1D71C-1D734 1D756-1D76E",
      "1D790-1D7A8 1D7CA"]⟩,
  ⟨["cwu","changeswhenuppercased"],["Ll","Lt"],[],
    ["345 2170-217F 24D0-24E9"],
    ["138 18D 1AA-1AB 1BA 1BE 221 234-239 255 258 25A 25D-25F 262 267 26D-26E 270 273-274",
      "276-27C 27E-27F 281 284-286 28D-291 293 295-29C 29F-2AF 3FC 560 588 1D00-1D2B 1D6B-1D77",
      "1D7A-1D7C 1D7E-1D8D 1D8F-1D9A 1E9C-1E9D 1E9F 210A 210E-210F 2113 212F 2134 2139 213C-213D",
      "2146-2149 2C71 2C74 2C77-2C7B 2CE4 A730-A731 A771-A778 A78E A795 A7AF A7D3 A7D5 A7FA",
      "AB30-AB52 AB54-AB5A AB60-AB68 1D41A-1D433 1D44E-1D454 1D456-1D467 1D482-1D49B 1D4B6-1D4B9",
      "1D4BB 1D4BD-1D4C3 1D4C5-1D4CF 1D4EA-1D503 1D51E-1D537 1D552-1D56B 1D586-1D59F 1D5BA-1D5D3",
      "1D5EE-1D607 1D622-1D63B 1D656-1D66F 1D68A-1D6A5 1D6C2-1D6DA 1D6DC-1D6E1 1D6FC-1D714",
      "1D716-1D71B 1D736-1D74E 1D750-1D755 1D770-1D788 1D78A-1D78F 1D7AA-1D7C2 1D7C4-1D7C9 1D7CB",
      "1DF00-1DF09 1DF0B-1DF1E 1DF25-1DF2A"]⟩,
  ⟨["cwt","changeswhentitlecased"],["Ll"],[],
    ["1C4 1C7 1CA 1F1 345 2170-217F 24D0-24E9"],
    ["138 18D 1AA-1AB 1BA 1BE 221 234-239 255 258 25A 25D-25F 262 267 26D-26E 270 273-274",
      "276-27C 27E-27F 281 284-286 28D-291 293 295-29C 29F-2AF 3FC 560 588 10D0-10FA 10FD-10FF",
      "1D00-1D2B 1D6B-1D77 1D7A-1D7C 1D7E-1D8D 1D8F-1D9A 1E9C-1E9D 1E9F 210A 210E-210F 2113 212F",
      "2134 2139 213C-213D 2146-2149 2C71 2C74 2C77-2C7B 2CE4 A730-A731 A771-A778 A78E A795 A7AF",
      "A7D3 A7D5 A7FA AB30-AB52 AB54-AB5A AB60-AB68 1D41A-1D433 1D44E-1D454 1D456-1D467",
      "1D482-1D49B 1D4B6-1D4B9 1D4BB 1D4BD-1D4C3 1D4C5-1D4CF 1D4EA-1D503 1D51E-1D537 1D552-1D56B",
      "1D586-1D59F 1D5BA-1D5D3 1D5EE-1D607 1D622-1D63B 1D656-1D66F 1D68A-1D6A5 1D6C2-1D6DA",
      "1D6DC-1D6E1 1D6FC-1D714 1D716-1D71B 1D736-1D74E 1D750-1D755 1D770-1D788 1D78A-1D78F",
      "1D7AA-1D7C2 1D7C4-1D7C9 1D7CB 1DF00-1DF09 1DF0B-1DF1E 1DF25-1DF2A"]⟩,
  ⟨["cwcf","changeswhencasefolded"],["Lu","Lt"],[],
    ["B5 DF 149 17F 345 3C2 3D0-3D1 3D5-3D6 3F0-3F1 3F5 587 13F8-13FD 1C80-1C88 1E9A-1E9B",
      "1F80-1F87 1F90-1F97 1FA0-1FA7 1FB2-1FB4 1FB7 1FC2-1FC4 1FC7 1FF2-1FF4 1FF7 2160-216F",
      "24B6-24CF AB70-ABBF FB00-FB06 FB13-FB17"],
    ["3D2-3D4 13A0-13F5 2102 2107 210B-210D 2110-2112 2115 2119-211D 2124 2128 212C-212D",
      "2130-2131 2133 213E-213F 2145 1D400-1D419 1D434-1D44D 1D468-1D481 1D49C 1D49E-1D49F 1D4A2",
      "1D4A5-1D4A6 1D4A9-1D4AC 1D4AE-1D4B5 1D4D0-1D4E9 1D504-1D505 1D507-1D50A 1D50D-1D514",
      "1D516-1D51C 1D538-1D539 1D53B-1D53E 1D540-1D544 1D546 1D54A-1D550 1D56C-1D585 1D5A0-1D5B9",
      "1D5D4-1D5ED 1D608-1D621 1D63C-1D655 1D670-1D689 1D6A8-1D6C0 1D6E2-1D6FA 1D71C-1D734",
      "1D756-1D76E 1D790-1D7A8 1D7CA"]⟩,
  ⟨["cwcm","changeswhencasemapped"],[],
    ["changeswhenlowercased","changeswhenuppercased","changeswhentitlecased"],
    [],
    []⟩,
  ⟨["omath","othermath"],[],[],
    ["5E 3D0-3D2 3D5 3F0-3F1 3F4-3F5 2016 2032-2034 2040 2061-2064 207D-207E 208D-208E",
      "20D0-20DC 20E1 20E5-20E6 20EB-20EF 2102 2107 210A-2113 2115 2119-211D 2124 2128-2129",
      "212C-212D 212F-2131 2133-2138 213C-213F 2145-2149 2195-2199 219C-219F 21A1-21A2 21A4-21A5",
      "21A7 21A9-21AD 21B0-21B1 21B6-21B7 21BC-21CD 21D0-21D1 21D3 21D5-21DB 21DD 21E4-21E5",
      "2308-230B 23B4-23B5 23B7 23D0 23E2 25A0-25A1 25AE-25B6 25BC-25C0 25C6-25C7 25CA-25CB",
      "25CF-25D3 25E2 25E4 25E7-25EC 2605-2606 2640 2642 2660-2663 266D-266E 27C5-27C6 27E6-27EF",
      "2983-2998 29D8-29DB 29FC-29FD FE61 FE63 FE68 FF3C FF3E 1D400-1D454 1D456-1D49C",
      "1D49E-1D49F 1D4A2 1D4A5-1D4A6 1D4A9-1D4AC 1D4AE-1D4B9 1D4BB 1D4BD-1D4C3 1D4C5-1D505",
      "1D507-1D50A 1D50D-1D514 1D516-1D51C 1D51E-1D539 1D53B-1D53E 1D540-1D544 1D546 1D54A-1D550",
      "1D552-1D6A5 1D6A8-1D6C0 1D6C2-1D6DA 1D6DC-1D6FA 1D6FC-1D714 1D716-1D734 1D736-1D74E",
      "1D750-1D76E 1D770-1D788 1D78A-1D7A8 1D7AA-1D7C2 1D7C4-1D7CB 1D7CE-1D7FF 1EE00-1EE03",
      "1EE05-1EE1F 1EE21-1EE22 1EE24 1EE27 1EE29-1EE32 1EE34-1EE37 1EE39 1EE3B 1EE42 1EE47 1EE49",
      "1EE4B 1EE4D-1EE4F 1EE51-1EE52 1EE54 1EE57 1EE59 1EE5B 1EE5D 1EE5F 1EE61-1EE62 1EE64",
      "1EE67-1EE6A 1EE6C-1EE72 1EE74-1EE77 1EE79-1EE7C 1EE7E 1EE80-1EE89 1EE8B-1EE9B 1EEA1-1EEA3",
      "1EEA5-1EEA9 1EEAB-1EEBB"],
    []⟩,
  ⟨["math"],["Sm"],["othermath"],
    [],
    []⟩,
  ⟨["dash"],["Pd"],[],
    ["2053 207B 208B 2212"],
    []⟩,
  ⟨["hyphen"],[],[],
    ["2D AD 58A 1806 2010-2011 2E17 30FB FE63 FF0D FF65"],
    []⟩,
  ⟨["ahex","asciihexdigit"],[],[],
    ["30-39 41-46 61-66"],
    []⟩,
  ⟨["bidic","bidicontrol"],[],[],
    ["61C 200E-200F 202A-202E 2066-2069"],
    []⟩,
  ⟨["odi","otherdefaultignorablecodepoint"],[],[],
    ["34F 115F-1160 17B4-17B5 2065 3164 FFA0 FFF0-FFF8 E0000 E0002-E001F E0080-E00FF",
      "E01F0-E0FFF"],
    []⟩,
  ⟨["di","defaultignorablecodepoint"],[],[],
    ["AD 34F 61C 115F-1160 17B4-17B5 180B-180F 200B-200F 202A-202E 2060-206F 3164 FE00-FE0F",
      "FEFF FFA0 FFF0-FFF8 1BCA0-1BCA3 1D173-1D17A E0000-E0FFF"],
    []⟩,
  ⟨["dep","deprecated"],[],[],
    ["149 673 F77 F79 17A3-17A4 206A-206F 2329-232A E0001"],
    []⟩,
  ⟨["dia","diacritic"],[],[],
    ["5E 60 A8 AF B4 B7-B8 2B0-34E 350-357 35D-362 374-375 37A 384-385 483-487 559 591-5A1",
      "5A3-5BD 5BF 5C1-5C2 5C4 64B-652 657-658 6DF-6E0 6E5-6E6 6EA-6EC 730-74A 7A6-7B0 7EB-7F5",
      "818-819 898-89F 8C9-8D2 8E3-8FE 93C 94D 951-954 971 9BC 9CD A3C A4D ABC ACD AFD-AFF B3C",
      "B4D B55 BCD C3C C4D CBC CCD D3B-D3C D4D DCA E47-E4C E4E EBA EC8-ECC F18-F19 F35 F37 F39",
      "F3E-F3F F82-F84 F86-F87 FC6 1037 1039-103A 1063-1064 1069-106D 1087-108D 108F 109A-109B",
      "135D-135F 1714-1715 17C9-17D3 17DD 1939-193B 1A75-1A7C 1A7F 1AB0-1ABE 1AC1-1ACB 1B34 1B44",
      "1B6B-1B73 1BAA-1BAB 1C36-1C37 1C78-1C7D 1CD0-1CE8 1CED 1CF4 1CF7-1CF9 1D2C-1D6A 1DC4-1DCF",
      "1DF5-1DFF 1FBD 1FBF-1FC1 1FCD-1FCF 1FDD-1FDF 1FED-1FEF 1FFD-1FFE 2CEF-2CF1 2E2F 302A-302F",
      "3099-309C 30FC A66F A67C-A67D A67F A69C-A69D A6F0-A6F1 A700-A721 A788-A78A A7F8-A7F9 A8C4",
      "A8E0-A8F1 A92B-A92E A953 A9B3 A9C0 A9E5 AA7B-AA7D AABF-AAC2 AAF6 AB5B-AB5F AB69-AB6B",
      "ABEC-ABED FB1E FE20-FE2F FF3E FF40 FF70 FF9E-FF9F FFE3 102E0 10780-10785 10787-107B0",
      "107B2-107BA 10AE5-10AE6 10D22-10D27 10EFD-10EFF 10F46-10F50 10F82-10F85 11046 11070",
      "110B9-110BA 11133-11134 11173 111C0 111CA-111CC 11235-11236 112E9-112EA 1133C 1134D",
      "11366-1136C 11370-11374 11442 11446 114C2-114C3 115BF-115C0 1163F 116B6-116B7 1172B",
      "11839-1183A 1193D-1193E 11943 119E0 11A34 11A47 11A99 11C3F 11D42 11D44-11D45 11D97",
      "13447-13455 16AF0-16AF4 16B30-16B36 16F8F-16F9F 16FF0-16FF1 1AFF0-1AFF3 1AFF5-1AFFB",
      "1AFFD-1AFFE 1CF00-1CF2D 1CF30-1CF46 1D167-1D169 1D16D-1D172 1D17B-1D182 1D185-1D18B",
      "1D1AA-1D1AD 1E030-1E06D 1E130-1E136 1E2AE 1E2EC-1E2EF 1E8D0-1E8D6 1E944-1E946 1E948-1E94A"],
    []⟩,
  ⟨["emoji"],[],[],
    ["23 2A 30-39 A9 AE 203C 2049 2122 2139 2194-2199 21A9-21AA 231A-231B 2328 23CF 23E9-23F3",
      "23F8-23FA 24C2 25AA-25AB 25B6 25C0 25FB-25FE 2600-2604 260E 2611 2614-2615 2618 261D 2620",
      "2622-2623 2626 262A 262E-262F 2638-263A 2640 2642 2648-2653 265F-2660 2663 2665-2666 2668",
      "267B 267E-267F 2692-2697 2699 269B-269C 26A0-26A1 26A7 26AA-26AB 26B0-26B1 26BD-26BE",
      "26C4-26C5 26C8 26CE-26CF 26D1 26D3-26D4 26E9-26EA 26F0-26F5 26F7-26FA 26FD 2702 2705",
      "2708-270D 270F 2712 2714 2716 271D 2721 2728 2733-2734 2744 2747 274C 274E 2753-2755 2757",
      "2763-2764 2795-2797 27A1 27B0 27BF 2934-2935 2B05-2B07 2B1B-2B1C 2B50 2B55 3030 303D 3297",
      "3299 1F004 1F0CF 1F170-1F171 1F17E-1F17F 1F18E 1F191-1F19A 1F1E6-1F1FF 1F201-1F202 1F21A",
      "1F22F 1F232-1F23A 1F250-1F251 1F300-1F321 1F324-1F393 1F396-1F397 1F399-1F39B 1F39E-1F3F0",
      "1F3F3-1F3F5 1F3F7-1F4FD 1F4FF-1F53D 1F549-1F54E 1F550-1F567 1F56F-1F570 1F573-1F57A 1F587",
      "1F58A-1F58D 1F590 1F595-1F596 1F5A4-1F5A5 1F5A8 1F5B1-1F5B2 1F5BC 1F5C2-1F5C4 1F5D1-1F5D3",
      "1F5DC-1F5DE 1F5E1 1F5E3 1F5E8 1F5EF 1F5F3 1F5FA-1F64F 1F680-1F6C5 1F6CB-1F6D2 1F6D5-1F6D7",
      "1F6DC-1F6E5 1F6E9 1F6EB-1F6EC 1F6F0 1F6F3-1F6FC 1F7E0-1F7EB 1F7F0 1F90C-1F93A 1F93C-1F945",
      "1F947-1F9FF 1FA70-1FA7C 1FA80-1FA89 1FA8F-1FAC6 1FACE-1FADC 1FADF-1FAE9 1FAF0-1FAF8"],
    []⟩,
  ⟨["ecomp","emojicomponent"],[],[],
    ["23 2A 30-39 200D 20E3 FE0F 1F1E6-1F1FF 1F3FB-1F3FF 1F9B0-1F9B3 E0020-E007F"],
    []⟩,
  ⟨["emod","emojimodifier"],[],[],
    ["1F3FB-1F3FF"],
    []⟩,
  ⟨["ebase","emojimodifierbase"],[],[],
    ["261D 26F9 270A-270D 1F385 1F3C2-1F3C4 1F3C7 1F3CA-1F3CC 1F442-1F443 1F446-1F450",
      "1F466-1F478 1F47C 1F481-1F483 1F485-1F487 1F48F 1F491 1F4AA 1F574-1F575 1F57A 1F590",
      "1F595-1F596 1F645-1F647 1F64B-1F64F 1F6A3 1F6B4-1F6B6 1F6C0 1F6CC 1F90C 1F90F 1F918-1F91F",
      "1F926 1F930-1F939 1F93C-1F93E 1F977 1F9B5-1F9B6 1F9B8-1F9B9 1F9BB 1F9CD-1F9CF 1F9D1-1F9DD",
      "1FAC3-1FAC5 1FAF0-1FAF8"],
    []⟩,
  ⟨["epres","emojipresentation"],[],[],
    ["231A-231B 23E9-23EC 23F0 23F3 25FD-25FE 2614-2615 2648-2653 267F 2693 26A1 26AA-26AB",
      "26BD-26BE 26C4-26C5 26CE 26D4 26EA 26F2-26F3 26F5 26FA 26FD 2705 270A-270B 2728 274C 274E",
      "2753-2755 2757 2795-2797 27B0 27BF 2B1B-2B1C 2B50 2B55 1F004 1F0CF 1F18E 1F191-1F19A",
      "1F1E6-1F1FF 1F201 1F21A 1F22F 1F232-1F236 1F238-1F23A 1F250-1F251 1F300-1F320 1F32D-1F335",
      "1F337-1F37C 1F37E-1F393 1F3A0-1F3CA 1F3CF-1F3D3 1F3E0-1F3F0 1F3F4 1F3F8-1F43E 1F440",
      "1F442-1F4FC 1F4FF-1F53D 1F54B-1F54E 1F550-1F567 1F57A 1F595-1F596 1F5A4 1F5FB-1F64F",
      "1F680-1F6C5 1F6CC 1F6D0-1F6D2 1F6D5-1F6D7 1F6DC-1F6DF 1F6EB-1F6EC 1F6F4-1F6FC 1F7E0-1F7EB",
      "1F7F0 1F90C-1F93A 1F93C-1F945 1F947-1F9FF 1FA70-1FA7C 1FA80-1FA89 1FA8F-1FAC6 1FACE-1FADC",
      "1FADF-1FAE9 1FAF0-1FAF8"],
    []⟩,
  ⟨["extpict","extendedpictographic"],[],[],
    ["A9 AE 203C 2049 2122 2139 2194-2199 21A9-21AA 231A-231B 2328 2388 23CF 23E9-23F3",
      "23F8-23FA 24C2 25AA-25AB 25B6 25C0 25FB-25FE 2600-2605 2607-2612 2614-2685 2690-2705",
      "2708-2712 2714 2716 271D 2721 2728 2733-2734 2744 2747 274C 274E 2753-2755 2757 2763-2767",
      "2795-2797 27A1 27B0 27BF 2934-2935 2B05-2B07 2B1B-2B1C 2B50 2B55 3030 303D 3297 3299",
      "1F000-1F0FF 1F10D-1F10F 1F12F 1F16C-1F171 1F17E-1F17F 1F18E 1F191-1F19A 1F1AD-1F1E5",
      "1F201-1F20F 1F21A 1F22F 1F232-1F23A 1F23C-1F23F 1F249-1F3FA 1F400-1F53D 1F546-1F64F",
      "1F680-1F6FF 1F774-1F77F 1F7D5-1F7FF 1F80C-1F80F 1F848-1F84F 1F85A-1F85F 1F888-1F88F",
      "1F8AE-1F8FF 1F90C-1F93A 1F93C-1F945 1F947-1FAFF 1FC00-1FFFD"],
    []⟩,
  ⟨["ext","extender"],[],[],
    ["B7 2D0-2D1 640 7FA B55 E46 EC6 180A 1843 1AA7 1C36 1C7B 3005 3031-3035 309D-309E",
      "30FC-30FE A015 A60C A9CF A9E6 AA70 AADD AAF3-AAF4 FF70 10781-10782 1135D 115C6-115C8",
      "11A98 16B42-16B43 16FE0-16FE1 16FE3 1E13C-1E13D 1E944-1E946"],
    []⟩,
  ⟨["hex","hexdigit"],[],[],
    ["30-39 41-46 61-66 FF10-FF19 FF21-FF26 FF41-FF46"],
    []⟩,
  ⟨["idsb","idsbinaryoperator"],[],[],
    ["2FF0-2FF1 2FF4-2FFD 31EF"],
    []⟩,
  ⟨["idst","idstrinaryoperator"],[],[],
    ["2FF2-2FF3"],
    []⟩,
  ⟨["idsu","idsunaryoperator"],[],[],
    ["2FFE-2FFF"],
    []⟩,
  ⟨["ideo","ideographic"],[],[],
    ["3006-3007 3021-3029 3038-303A 3400-4DBF 4E00-9FFF F900-FA6D FA70-FAD9 16FE4 17000-187F7",
      "18800-18CD5 18CFF-18D08 1B170-1B2FB 20000-2A6DF 2A700-2B739 2B740-2B81D 2B820-2CEA1",
      "2CEB0-2EBE0 2EBF0-2EE5D 2F800-2FA1D 30000-3134A 31350-323AF"],
    []⟩,
  ⟨["joinc","joincontrol"],[],[],
    ["200C-200D"],
    []⟩,
  ⟨["loe","logicalorderexception"],[],[],
    ["E40-E44 EC0-EC4 19B5-19B7 19BA AAB5-AAB6 AAB9 AABB-AABC"],
    []⟩,
  ⟨["nchar","noncharactercodepoint"],[],[],
    ["FDD0-FDEF FFFE-FFFF 1FFFE-1FFFF 2FFFE-2FFFF 3FFFE-3FFFF 4FFFE-4FFFF 5FFFE-5FFFF",
      "6FFFE-6FFFF 7FFFE-7FFFF 8FFFE-8FFFF 9FFFE-9FFFF AFFFE-AFFFF BFFFE-BFFFF CFFFE-CFFFF",
      "DFFFE-DFFFF EFFFE-EFFFF FFFFE-FFFFF 10FFFE-10FFFF"],
    []⟩,
  ⟨["patsyn","patternsyntax"],[],[],
    ["21-2F 3A-40 5B-5E 60 7B-7E A1-A7 A9 AB-AC AE B0-B1 B6 BB BF D7 F7 2010-2027 2030-203E",
      "2041-2053 2055-205E 2190-245F 2500-2775 2794-2BFF 2E00-2E7F 3001-3003 3008-3020 3030",
      "FD3E-FD3F FE45-FE46"],
    []⟩,
  ⟨["patws","patternwhitespace"],[],[],
    ["9-D 20 85 200E-200F 2028-2029"],
    []⟩,
  ⟨["pcm","prependedconcatenationmark"],[],[],
    ["600-605 6DD 70F 890-891 8E2 110BD 110CD"],
    []⟩,
  ⟨["qmark","quotationmark"],[],[],
    ["22 27 AB BB 2018-201F 2039-203A 2E42 300C-300F 301D-301F FE41-FE44 FF02 FF07 FF62-FF63"],
    []⟩,
  ⟨["radical"],[],[],
    ["2E80-2E99 2E9B-2EF3 2F00-2FD5"],
    []⟩,
  ⟨["ri","regionalindicator"],[],[],
    ["1F1E6-1F1FF"],
    []⟩,
  ⟨["sterm","sentenceterminal"],[],[],
    ["21 2E 3F 589 61D-61F 6D4 700-702 7F9 837 839 83D-83E 964-965 104A-104B 1362 1367-1368",
      "166E 1735-1736 1803 1809 1944-1945 1AA8-1AAB 1B4E-1B4F 1B5A-1B5B 1B5E-1B5F 1B7D-1B7F",
      "1C3B-1C3C 1C7E-1C7F 203C-203D 2047-2049 2E2E 2E3C 2E53-2E54 3002 A4FF A60E-A60F A6F3 A6F7",
      "A876-A877 A8CE-A8CF A92F A9C8-A9C9 AA5D-AA5F AAF0-AAF1 ABEB FE52 FE56-FE57 FF01 FF0E FF1F",
      "FF61 10A56-10A57 10F55-10F59 10F86-10F89 11047-11048 110BE-110C1 11141-11143 111C5-111C6",
      "111CD 111DE-111DF 11238-11239 1123B-1123C 112A9 113D4-113D5 1144B-1144C 115C2-115C3",
      "115C9-115D7 11641-11642 1173C-1173E 11944 11946 11A42-11A43 11A9B-11A9C 11C41-11C42",
      "11EF7-11EF8 11F43-11F44 16A6E-16A6F 16AF5 16B37-16B38 16B44 16D6E-16D6F 16E98 1BC9F 1DA88"],
    []⟩,
  ⟨["sd","softdotted"],[],[],
    ["69-6A 12F 249 268 29D 2B2 3F3 456 458 1D62 1D96 1DA4 1DA8 1E2D 1ECB 2071 2148-2149 2C7C",
      "1D422-1D423 1D456-1D457 1D48A-1D48B 1D4BE-1D4BF 1D4F2-1D4F3 1D526-1D527 1D55A-1D55B",
      "1D58E-1D58F 1D5C2-1D5C3 1D5F6-1D5F7 1D62A-1D62B 1D65E-1D65F 1D692-1D693 1DF1A 1E04C-1E04D",
      "1E068"],
    []⟩,
  ⟨["term","terminalpunctuation"],[],[],
    ["21 2C 2E 3A-3B 3F 37E 387 589 5C3 60C 61B 61D-61F 6D4 700-70A 70C 7F8-7F9 830-83E 85E",
      "964-965 E5A-E5B F08 F0D-F12 104A-104B 1361-1368 166E 16EB-16ED 1735-1736 17D4-17D6 17DA",
      "1802-1805 1808-1809 1944-1945 1AA8-1AAB 1B4E-1B4F 1B5A-1B5B 1B5D-1B5F 1B7D-1B7F 1C3B-1C3F",
      "1C7E-1C7F 203C-203D 2047-2049 2E2E 2E3C 2E41 2E4C 2E4E-2E4F 2E53-2E54 3001-3002 A4FE-A4FF",
      "A60D-A60F A6F3-A6F7 A876-A877 A8CE-A8CF A92F A9C7-A9C9 AA5D-AA5F AADF AAF0-AAF1 ABEB",
      "FE50-FE52 FE54-FE57 FF01 FF0C FF0E FF1A-FF1B FF1F FF61 FF64 1039F 103D0 10857 1091F",
      "10A56-10A57 10AF0-10AF5 10B3A-10B3F 10B99-10B9C 10F55-10F59 10F86-10F89 11047-1104D",
      "110BE-110C1 11141-11143 111C5-111C6 111CD 111DE-111DF 11238-1123C 112A9 113D4-113D5",
      "1144B-1144D 1145A-1145B 115C2-115C5 115C9-115D7 11641-11642 1173C-1173E 11944 11946",
      "11A42-11A43 11A9B-11A9C 11AA1-11AA2 11C41-11C43 11C71 11EF7-11EF8 11F43-11F44 12470-12474",
      "16A6E-16A6F 16AF5 16B37-16B39 16B44 16D6E-16D6F 16E97-16E98 1BC9F 1DA87-1DA8A"],
    []⟩,
  ⟨["uideo","unifiedideograph"],[],[],
    ["3400-4DBF 4E00-9FFF FA0E-FA0F FA11 FA13-FA14 FA1F FA21 FA23-FA24 FA27-FA29 20000-2A6DF",
      "2A700-2B739 2B740-2B81D 2B820-2CEA1 2CEB0-2EBE0 2EBF0-2EE5D 30000-3134A 31350-323AF"],
    []⟩,
  ⟨["vs","variationselector"],[],[],
    ["180B-180D 180F FE00-FE0F E0100-E01EF"],
    []⟩,
  ⟨["wspace","whitespace","space"],[],[],
    ["9-D 20 85 A0 1680 2000-200A 2028-2029 202F 205F 3000"],
    []⟩
]

/-- The characters of a recipe, where `part` gives those of the properties it is made of. -/
def Recipe.resolve (recipe : Recipe) (part : String → CharSet) : CharSet :=
  let all := CharSet.unionAll
    (Category.ofAbbreviations recipe.categories :: CharSet.ofText recipe.besides ::
      recipe.properties.map part)
  all.difference (CharSet.ofText recipe.except)

/-- The characters with a property of the recipes, of which the last come first. -/
def findAmong? (name : String) : List Recipe → Option CharSet
  | [] => none
  | recipe :: earlier =>
    if recipe.names.contains name then
      some (recipe.resolve fun part => (findAmong? part earlier).getD [])
    else findAmong? name earlier

def find? (name : String) : Option CharSet := findAmong? name recipes.reverse

end Property

def alphabetic : CharSet := (Property.find? "alphabetic").getD []

def digit : CharSet := Category.ofAbbreviation "Nd"

def alphanumeric : CharSet := alphabetic.union (Category.ofAbbreviations ["Nd","Nl","No"])

def blank : CharSet := CharSet.ofText ["9-D 20 85 A0 1680 2000-200A 2028 2029 202F 205F 3000"]

/-- The characters of words: alphabetic ones, marks, digits, connectors and joiners. -/
def word : CharSet :=
  CharSet.unionAll [alphabetic,Category.ofAbbreviations ["Mn","Mc","Me","Nd","Pc"],
    (Property.find? "joincontrol").getD []]

def graphemeExtend : CharSet := (Property.find? "graphemeextend").getD []

/-- Characters that are not shown: controls, formats, separators other than the space, and code
    points without a character. -/
def hidden : CharSet :=
  (Category.ofAbbreviations ["Cc","Cf","Cs","Co","Cn","Zl","Zp","Zs"]).difference
    (CharSet.single 0x20)

end TabCompletion.Unicode
