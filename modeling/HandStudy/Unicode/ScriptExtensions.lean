import HandStudy.Unicode.Category
import HandStudy.Unicode.Script

/-!
# Characters of several scripts

Most characters are used in one script only. The others, such as marks and digits that
neighbouring scripts share, are listed here with all the scripts that use them.
-/

namespace HandStudy.Unicode

/-- Characters with the scripts that use them, where these are not just the one that
    the characters belong to. -/
def sharedTables : List (CharSet × List String) := [
  (.ofText
    "342 345 1DBF-1DC1",
    ["greek"]),
  (.ofText
    "363-36F",
    ["latin"]),
  (.ofText
    "483",
    ["cyrillic", "oldpermic"]),
  (.ofText
    "484 487 2E43 A66F",
    ["cyrillic", "glagolitic"]),
  (.ofText
    "485-486",
    ["cyrillic", "latin"]),
  (.ofText
    "60C 61B",
    ["arabic", "hanifirohingya", "nko", "syriac", "thaana", "yezidi"]),
  (.ofText
    "61C",
    ["arabic", "syriac", "thaana"]),
  (.ofText
    "61F",
    ["adlam", "arabic", "hanifirohingya", "nko", "syriac", "thaana", "yezidi"]),
  (.ofText
    "640",
    ["adlam", "arabic", "hanifirohingya", "mandaic", "manichaean", "olduyghur",
     "psalterpahlavi", "sogdian", "syriac"]),
  (.ofText
    "64B-655 670",
    ["arabic", "syriac"]),
  (.ofText
    "660-669",
    ["arabic", "thaana", "yezidi"]),
  (.ofText
    "6D4",
    ["arabic", "hanifirohingya"]),
  (.ofText
    "951",
    ["bengali", "devanagari", "grantha", "gujarati", "gurmukhi", "kannada", "latin",
     "malayalam", "oriya", "sharada", "tamil", "telugu", "tirhuta"]),
  (.ofText
    "952",
    ["bengali", "devanagari", "grantha", "gujarati", "gurmukhi", "kannada", "latin",
     "malayalam", "oriya", "tamil", "telugu", "tirhuta"]),
  (.ofText
    "964",
    ["bengali", "devanagari", "dogra", "grantha", "gujarati", "gunjalagondi", "gurmukhi",
     "kannada", "khudawadi", "mahajani", "malayalam", "masaramgondi", "nandinagari", "oriya",
     "sinhala", "sylotinagri", "takri", "tamil", "telugu", "tirhuta"]),
  (.ofText
    "965",
    ["bengali", "devanagari", "dogra", "grantha", "gujarati", "gunjalagondi", "gurmukhi",
     "kannada", "khudawadi", "limbu", "mahajani", "malayalam", "masaramgondi", "nandinagari",
     "oriya", "sinhala", "sylotinagri", "takri", "tamil", "telugu", "tirhuta"]),
  (.ofText
    "966-96F",
    ["devanagari", "dogra", "kaithi", "mahajani"]),
  (.ofText
    "9E6-9EF",
    ["bengali", "chakma", "sylotinagri"]),
  (.ofText
    "A66-A6F",
    ["gurmukhi", "multani"]),
  (.ofText
    "AE6-AEF",
    ["gujarati", "khojki"]),
  (.ofText
    "BE6-BF3 11301 11303 1133B-1133C 11FD0-11FD1 11FD3",
    ["grantha", "tamil"]),
  (.ofText
    "CE6-CEF",
    ["kannada", "nandinagari"]),
  (.ofText
    "1040-1049",
    ["chakma", "myanmar", "taile"]),
  (.ofText
    "10FB",
    ["georgian", "latin"]),
  (.ofText
    "1735-1736",
    ["buhid", "hanunoo", "tagalog", "tagbanwa"]),
  (.ofText
    "1802-1803 1805",
    ["mongolian", "phagspa"]),
  (.ofText
    "1CD0 1CD2",
    ["bengali", "devanagari", "grantha", "kannada"]),
  (.ofText
    "1CD1 1CD4 1CDB 1CDE-1CDF 1CE2-1CE8 1CEB-1CEC 1CEE-1CF1",
    ["devanagari"]),
  (.ofText
    "1CD3 1CF3 1CF8-1CF9",
    ["devanagari", "grantha"]),
  (.ofText
    "1CD5-1CD6 1CD8 1CE1 1CEA 1CED 1CF5-1CF6 A8F1",
    ["bengali", "devanagari"]),
  (.ofText
    "1CD7 1CD9 1CDC-1CDD 1CE0",
    ["devanagari", "sharada"]),
  (.ofText
    "1CDA",
    ["devanagari", "kannada", "malayalam", "oriya", "tamil", "telugu"]),
  (.ofText
    "1CE9",
    ["devanagari", "nandinagari"]),
  (.ofText
    "1CF2",
    ["bengali", "devanagari", "grantha", "kannada", "nandinagari", "oriya", "telugu", "tirhuta"]),
  (.ofText
    "1CF4",
    ["devanagari", "grantha", "kannada"]),
  (.ofText
    "1CF7",
    ["bengali"]),
  (.ofText
    "1CFA",
    ["nandinagari"]),
  (.ofText
    "1DF8",
    ["cyrillic", "syriac"]),
  (.ofText
    "1DFA",
    ["syriac"]),
  (.ofText
    "202F",
    ["latin", "mongolian"]),
  (.ofText
    "20F0",
    ["devanagari", "grantha", "latin"]),
  (.ofText
    "3001-3002 3008-3011 3014-301B 30FB FF61-FF65",
    ["bopomofo", "han", "hangul", "hiragana", "katakana", "yi"]),
  (.ofText
    "3003 3013 301C-301F 3030 3037 FE45-FE46",
    ["bopomofo", "han", "hangul", "hiragana", "katakana"]),
  (.ofText
    "3005-3007 303E-303F 3190-319F 31C0-31E3 3220-3247 3280-32B0 32C0-32CB 32FF 3358-3370
    337B-337F 33E0-33FE 1D360-1D371 1F250-1F251",
    ["han"]),
  (.ofText
    "302A-302D",
    ["bopomofo", "han"]),
  (.ofText
    "3031-3035 3099-309C 30A0 30FC FF70 FF9E-FF9F",
    ["hiragana", "katakana"]),
  (.ofText
    "303C-303D",
    ["han", "hiragana", "katakana"]),
  (.ofText
    "A700-A707",
    ["han", "latin"]),
  (.ofText
    "A830-A832",
    ["devanagari", "dogra", "gujarati", "gurmukhi", "kaithi", "kannada", "khojki", "khudawadi",
     "mahajani", "malayalam", "modi", "nandinagari", "takri", "tirhuta"]),
  (.ofText
    "A833-A835",
    ["devanagari", "dogra", "gujarati", "gurmukhi", "kaithi", "kannada", "khojki", "khudawadi",
     "mahajani", "modi", "nandinagari", "takri", "tirhuta"]),
  (.ofText
    "A836-A839",
    ["devanagari", "dogra", "gujarati", "gurmukhi", "kaithi", "khojki", "khudawadi", "mahajani",
     "modi", "takri", "tirhuta"]),
  (.ofText
    "A8F3",
    ["devanagari", "tamil"]),
  (.ofText
    "A92E",
    ["kayahli", "latin", "myanmar"]),
  (.ofText
    "A9CF",
    ["buginese", "javanese"]),
  (.ofText
    "FD3E-FD3F",
    ["arabic", "nko"]),
  (.ofText
    "FDF2 FDFD",
    ["arabic", "thaana"]),
  (.ofText
    "10100-10101",
    ["cypriot", "cyprominoan", "linearb"]),
  (.ofText
    "10102 10137-1013F",
    ["cypriot", "linearb"]),
  (.ofText
    "10107-10133",
    ["cypriot", "lineara", "linearb"]),
  (.ofText
    "102E0-102FB",
    ["arabic", "coptic"]),
  (.ofText
    "10AF2",
    ["manichaean", "olduyghur"]),
  (.ofText
    "1BC9C-1BCA3",
    ["duployan"])]

/-- The characters that a script uses, by one of the script's names in lower case
    and without separators. -/
def scriptUse? (name : String) : Option CharSet := do
  let (names, set) ← scriptTables.find? fun (names, _) => names.contains name
  let shared := unionOf (sharedTables.map Prod.fst)
  let used := sharedTables.filter fun (_, scripts) => scripts.any names.contains
  return (set.diff shared).union (unionOf (used.map Prod.fst))

end HandStudy.Unicode
