import ParamRules.Unicode.Script

/-!
# Script extensions

Most characters are used with the one script that they belong to.  The rows name the
others, with the scripts that use them.
-/

namespace ParamRules.Unicode

/-- Characters whose scripts are not just the one that they belong to: the short names
of the scripts, and the code points. -/
def scriptExtensions : List (List String × SetFormula) :=
  [ (["avst", "cari", "copt", "dupl", "elba", "geor", "glag", "gong", "goth", "grek", "hani",
      "latn", "lydi", "mahj", "perm", "shaw"],
      .table "B7"),
    (["beng", "cyrl", "deva", "latn", "lisu", "thai", "toto"], .table "2BC"),
    (["bopo", "latn"], .table "2C7 2C9-2CB 2D9"),
    (["latn", "lisu"], .table "2CD"),
    (["latn", "thai"], .table "2D7"),
    (["cher", "copt", "cyrl", "grek", "latn", "perm", "sunu", "tale"], .table "300"),
    (["cher", "cyrl", "grek", "latn", "osge", "sunu", "tale", "todr"], .table "301"),
    (["cher", "cyrl", "latn", "tfng"], .table "302"),
    (["glag", "latn", "sunu", "syrc", "thai"], .table "303"),
    (["aghb", "cher", "copt", "cyrl", "goth", "grek", "latn", "osge", "syrc", "tfng", "todr"],
      .table "304"),
    (["copt", "elba", "glag", "goth", "kana", "latn"], .table "305"),
    (["cyrl", "grek", "latn", "perm", "tfng"], .table "306"),
    (["copt", "dupl", "hebr", "latn", "perm", "syrc", "tale", "tfng", "todr"], .table "307"),
    (["armn", "cyrl", "dupl", "goth", "grek", "hebr", "latn", "perm", "syrc", "tale", "tfng"],
      .table "308"),
    (["latn", "tfng"], .table "309"),
    (["dupl", "latn", "syrc"], .table "30A"),
    (["cher", "cyrl", "latn", "osge"], .table "30B"),
    (["cher", "latn", "tale"], .table "30C"),
    (["latn", "sunu"], .table "30D 310"),
    (["ethi", "latn"], .table "30E"),
    (["cyrl", "latn", "todr"], .table "311"),
    (["grek", "latn", "perm", "todr"], .table "313"),
    (["cher", "dupl", "kana", "latn", "syrc", "tfng"], .table "323"),
    (["cher", "dupl", "latn", "syrc"], .table "324"),
    (["latn", "syrc"], .table "325 32E"),
    (["latn", "sunu", "syrc"], .table "32D"),
    (["cher", "latn", "syrc"], .table "330"),
    (["aghb", "cher", "goth", "latn", "sunu", "syrc", "thai"], .table "331"),
    (["grek"], .table "342 345 1DC0-1DC1"),
    (["latn", "osge"], .table "358"),
    (["aghb", "latn", "todr"], .table "35E"),
    (["latn"], .table "363-36F"),
    (["copt", "grek"], .table "374-375"),
    (["cyrl", "perm"], .table "483"),
    (["cyrl", "glag"], .table "484 487 2E43 A66F"),
    (["cyrl", "latn"], .table "485-486"),
    (["armn", "geor", "glag"], .table "589"),
    (["arab", "gara", "nkoo", "rohg", "syrc", "thaa", "yezi"], .table "60C 61B"),
    (["arab", "syrc", "thaa"], .table "61C"),
    (["adlm", "arab", "gara", "nkoo", "rohg", "syrc", "thaa", "yezi"], .table "61F"),
    (["adlm", "arab", "mand", "mani", "ougr", "phlp", "rohg", "sogd", "syrc"], .table "640"),
    (["arab", "syrc"], .table "64B-655 670"),
    (["arab", "thaa", "yezi"], .table "660-669"),
    (["arab", "rohg"], .table "6D4"),
    (["beng", "deva", "gran", "gujr", "guru", "knda", "latn", "mlym", "nand", "newa", "orya",
      "shrd", "taml", "telu", "tirh"],
      .table "951"),
    (["beng", "deva", "gran", "gujr", "guru", "knda", "latn", "mlym", "newa", "orya", "taml",
      "telu", "tirh"],
      .table "952"),
    (["beng", "deva", "dogr", "gong", "gonm", "gran", "gujr", "guru", "knda", "mahj", "mlym",
      "nand", "onao", "orya", "sind", "sinh", "sylo", "takr", "taml", "telu", "tirh"],
      .table "964"),
    (["beng", "deva", "dogr", "gong", "gonm", "gran", "gujr", "gukh", "guru", "knda", "limb",
      "mahj", "mlym", "nand", "onao", "orya", "sind", "sinh", "sylo", "takr", "taml", "telu",
      "tirh"],
      .table "965"),
    (["deva", "dogr", "kthi", "mahj"], .table "966-96F"),
    (["beng", "cakm", "sylo"], .table "9E6-9EF"),
    (["guru", "mult"], .table "A66-A6F"),
    (["gujr", "khoj"], .table "AE6-AEF"),
    (["gran", "taml"], .table "BE6-BF3 11301 11303 1133B-1133C 11FD0-11FD1 11FD3"),
    (["knda", "nand", "tutg"], .table "CE6-CEF"),
    (["cakm", "mymr", "tale"], .table "1040-1049"),
    (["geor", "glag", "latn"], .table "10FB"),
    (["runr"], .table "16EB-16ED"),
    (["buhd", "hano", "tagb", "tglg"], .table "1735-1736"),
    (["mong", "phag"], .table "1802-1803 1805"),
    (["beng", "deva", "gran", "knda"], .table "1CD0 1CD2"),
    (["deva"], .table "1CD1 1CD4 1CDB 1CDE-1CDF 1CE3-1CE8 1CEC 1CEE-1CF1"),
    (["deva", "gran", "knda"], .table "1CD3"),
    (["beng", "deva", "newa", "telu", "tirh"], .table "1CD5"),
    (["beng", "deva", "telu"], .table "1CD6"),
    (["deva", "newa", "shrd"], .table "1CD7"),
    (["beng", "deva", "newa", "telu"], .table "1CD8"),
    (["deva", "shrd"], .table "1CD9 1CDC-1CDD 1CE0"),
    (["deva", "knda", "mlym", "orya", "taml", "telu"], .table "1CDA"),
    (["beng", "deva"], .table "1CE1 1CF5-1CF6"),
    (["deva", "newa", "tirh"], .table "1CE2"),
    (["deva", "nand", "newa"], .table "1CE9"),
    (["beng", "deva", "shrd"], .table "1CEA"),
    (["deva", "newa"], .table "1CEB"),
    (["beng", "deva", "newa", "shrd"], .table "1CED"),
    (["beng", "deva", "gran", "knda", "mlym", "nand", "orya", "sinh", "telu", "tirh", "tutg"],
      .table "1CF2"),
    (["deva", "gran"], .table "1CF3 1CF8-1CF9"),
    (["deva", "gran", "knda", "tutg"], .table "1CF4"),
    (["beng"], .table "1CF7"),
    (["nand"], .table "1CFA"),
    (["cyrl", "latn", "syrc"], .table "1DF8"),
    (["syrc"], .table "1DFA"),
    (["latn", "mong", "phag"], .table "202F"),
    (["adlm", "arab"], .table "204F"),
    (["cari", "geor", "glag", "hung", "lyci", "orkh"], .table "205A"),
    (["cari", "grek", "hung", "mero"], .table "205D"),
    (["deva", "gran", "latn"], .table "20F0"),
    (["copt", "latn"], .table "2E17"),
    (["avst", "orkh"], .table "2E30"),
    (["avst", "cari", "geor", "hung", "kthi", "lydi", "samr"], .table "2E31"),
    (["dupl"], .table "2E3C 1BCA0-1BCA3"),
    (["adlm", "arab", "hung"], .table "2E41"),
    (["hani", "tang"], .table "2FF0-2FFF 31EF"),
    (["bopo", "hang", "hani", "hira", "kana", "mong", "yiii"], .table "3001"),
    (["bopo", "hang", "hani", "hira", "kana", "mong", "phag", "yiii"], .table "3002"),
    (["bopo", "hang", "hani", "hira", "kana"], .table "3003 3013 301C-301F 3030 3037 FE45-FE46"),
    (["hani"],
      .table "3006 303E-303F 3190-319F 31C0-31E5 3220-3247 3280-32B0 32C0-32CB 32FF 3358-3370
        337B-337F 33E0-33FE 1D360-1D371 1F250-1F251"),
    (["bopo", "hang", "hani", "hira", "kana", "mong", "tibt", "yiii"], .table "3008-3009"),
    (["bopo", "hang", "hani", "hira", "kana", "lisu", "mong", "tibt", "yiii"], .table "300A-300B"),
    (["bopo", "hang", "hani", "hira", "kana", "yiii"],
      .table "300C-3011 3014-301B 30FB FF61-FF65"),
    (["bopo", "hani"], .table "302A-302D"),
    (["hira", "kana"], .table "3031-3035 3099-309C 30A0 30FC FF70 FF9E-FF9F"),
    (["hani", "hira", "kana"], .table "303C-303D"),
    (["hani", "latn"], .table "A700-A707"),
    (["deva", "dogr", "gujr", "guru", "khoj", "knda", "kthi", "mahj", "mlym", "modi", "nand",
      "shrd", "sind", "takr", "tirh", "tutg"],
      .table "A830-A832"),
    (["deva", "dogr", "gujr", "guru", "khoj", "knda", "kthi", "mahj", "modi", "nand", "shrd",
      "sind", "takr", "tirh", "tutg"],
      .table "A833-A835"),
    (["deva", "dogr", "gujr", "guru", "khoj", "kthi", "mahj", "modi", "sind", "takr", "tirh"],
      .table "A836-A837 A839"),
    (["deva", "dogr", "gujr", "guru", "khoj", "kthi", "mahj", "modi", "shrd", "sind", "takr",
      "tirh"],
      .table "A838"),
    (["beng", "deva", "tutg"], .table "A8F1"),
    (["deva", "taml"], .table "A8F3"),
    (["kali", "latn", "mymr"], .table "A92E"),
    (["bugi", "java"], .table "A9CF"),
    (["arab", "nkoo"], .table "FD3E-FD3F"),
    (["arab", "thaa"], .table "FDF2 FDFD"),
    (["cpmn", "cprt", "linb"], .table "10100-10101"),
    (["cprt", "linb"], .table "10102 10137-1013F"),
    (["cprt", "lina", "linb"], .table "10107-10133"),
    (["arab", "copt"], .table "102E0-102FB"),
    (["mani", "ougr"], .table "10AF2") ]

/-- The characters used with a script that has these names and these characters of its
own. -/
def scriptExtension (names : List String) (own : SetFormula) : SetFormula :=
  scriptExtensions.foldl
    (fun set row => if row.1.any names.contains then set ∪ row.2 else set \ row.2) own

end ParamRules.Unicode
