import LivePreview.Unicode.Binary
import LivePreview.Unicode.ScriptTable

/-!
# Boundaries in text

Classes of code points that tell where a text falls into clusters, words and sentences.
-/

namespace LivePreview.Unicode

/-- The classes for words that are listed. -/
def wordTable : List (String × List String) :=
  [("doublequote", ["22"]),
   ("singlequote", ["27"]),
   ("hebrewletter",
    ["5d0-5ea 5ef-5f2 fb1d fb1f-fb28 fb2a-fb36 fb38-fb3c fb3e fb40-fb41 fb43-fb44 fb46-fb4f"]),
   ("midnumlet", ["2e 2018-2019 2024 fe52 ff07 ff0e"]),
   ("midletter", ["3a b7 387 55f 5f4 2027 fe13 fe55 ff1a"]),
   ("midnum", ["2c 3b 37e 589 60c-60d 66c 7f8 2044 fe10 fe14 fe50 fe54 ff0c ff1b"]),
   ("extendnumlet", ["5f 202f 203f-2040 2054 fe33-fe34 fe4d-fe4f ff3f"]),
   ("newline", ["b-c 85 2028-2029"]),
   ("format",
    ["ad 600-605 61c 6dd 70f 890-891 8e2 180e 200e-200f 202a-202e 2060-2064 2066-206f feff",
     "fff9-fffb 110bd 110cd 13430-1343f 1bca0-1bca3 1d173-1d17a e0001"]),
   ("katakana",
    ["3031-3035 309b-309c 30a0-30fa 30fc-30ff 31f0-31ff 32d0-32fe 3300-3357 ff66-ff9d",
     "1aff0-1aff3 1aff5-1affb 1affd-1affe 1b000 1b120-1b122 1b155 1b164-1b167"]),
   ("wsegspace", ["20 1680 2000-2006 2008-200a 205f 3000"])]

/-- Letters of scripts that put no gaps between words. -/
def ungappedLetters : CodeSet :=
  .ofTable
    ["e01-e30 e32-e33 e40-e46 e81-e82 e84 e86-e8a e8c-ea3 ea5 ea7-eb0 eb2-eb3 ebd ec0-ec4 ec6",
     "edc-edf 1000-102a 103f 1050-1055 105a-105d 1061 1065-1066 106e-1070 1075-1081 108e",
     "1780-17b3 17d7 17dc 1950-196d 1970-1974 1980-19ab 19b0-19c9 1a20-1a54 1aa7 a9e0-a9e4",
     "a9e6-a9ef a9fa-a9fe aa60-aa76 aa7a aa7e-aaaf aab1 aab5-aab6 aab9-aabd aac0 aac2 aadb-aadd",
     "11700-1171a 11740-11746"]

/-- Signs that join words like letters. -/
def letterLike : CodeSet :=
  .ofTable
    ["2c2-2c5 2d2-2d7 2de-2df 2e5-2eb 2ed 2ef-2ff 55a-55c 55e 58a 5f3 a708-a716 a720-a721",
     "a789-a78a ab5b"]

/-- What continues the character before it, within words and sentences. -/
def wordExtend : CodeSet :=
  (graphemeExtend.union (category "Mc")).union (listed "emojimodifier")

def listedWord (name : String) : CodeSet := .ofTable ((wordTable.lookup name).getD [])

def wordLetters : CodeSet :=
  let others := CodeSet.unions [listed "ideographic", listedWord "katakana", wordExtend,
    listedWord "hebrewletter", (script? "hiragana").getD .empty, ungappedLetters]
  (alphabetic.diff others).union letterLike

/-- The code points of a class for words. -/
def wordBreak? (name : String) : Option CodeSet :=
  match name with
  | "cr" => some (.only 0x0d)
  | "lf" => some (.only 0x0a)
  | "zwj" => some (.only 0x200d)
  | "ri" | "regionalindicator" => some (listed "regionalindicator")
  | "extend" => some wordExtend
  | "nu" | "numeric" => some ((category "Nd").union (.only 0x66b))
  | "le" | "aletter" => some wordLetters
  | _ =>
    let long := ([("dq", "doublequote"), ("sq", "singlequote"), ("hl", "hebrewletter"),
      ("mb", "midnumlet"), ("ml", "midletter"), ("mn", "midnum"), ("ex", "extendnumlet"),
      ("nl", "newline"), ("fo", "format"), ("ka", "katakana")].lookup name).getD name
    (wordTable.lookup long).map .ofTable

/-- The classes for sentences that are listed. -/
def sentenceTable : List (String × List String) :=
  [("sep", ["85 2028-2029"]),
   ("sp", ["9 b-c 20 a0 1680 2000-200a 202f 205f 3000"]),
   ("format",
    ["ad 600-605 61c 6dd 70f 890-891 8e2 180e 200b 200e-200f 202a-202e 2060-2064 2066-206f feff",
     "fff9-fffb 110bd 110cd 13430-1343f 1bca0-1bca3 1d173-1d17a e0001"]),
   ("aterm", ["2e 2024 fe52 ff0e"]),
   ("scontinue",
    ["2c-2d 3a 55d 60c-60d 7f8 1802 1808 2013-2014 3001 fe10-fe11 fe13 fe31-fe32 fe50-fe51 fe55",
     "fe58 fe63 ff0c-ff0d ff1a ff64"]),
   ("sterm",
    ["21 3f 589 61d-61f 6d4 700-702 7f9 837 839 83d-83e 964-965 104a-104b 1362 1367-1368 166e",
     "1735-1736 1803 1809 1944-1945 1aa8-1aab 1b4e-1b4f 1b5a-1b5b 1b5e-1b5f 1b7d-1b7f 1c3b-1c3c",
     "1c7e-1c7f 203c-203d 2047-2049 2e2e 2e3c 2e53-2e54 3002 a4ff a60e-a60f a6f3 a6f7 a876-a877",
     "a8ce-a8cf a92f a9c8-a9c9 aa5d-aa5f aaf0-aaf1 abeb fe56-fe57 ff01 ff1f ff61 10a56-10a57",
     "10f55-10f59 10f86-10f89 11047-11048 110be-110c1 11141-11143 111c5-111c6 111cd 111de-111df",
     "11238-11239 1123b-1123c 112a9 113d4-113d5 1144b-1144c 115c2-115c3 115c9-115d7 11641-11642",
     "1173c-1173e 11944 11946 11a42-11a43 11a9b-11a9c 11c41-11c42 11ef7-11ef8 11f43-11f44",
     "16a6e-16a6f 16af5 16b37-16b38 16b44 16d6e-16d6f 16e98 1bc9f 1da88"]),
   ("close",
    ["22 27-29 5b 5d 7b 7d ab bb f3a-f3d 169b-169c 2018-201f 2039-203a 2045-2046 207d-207e",
     "208d-208e 2308-230b 2329-232a 275b-2760 2768-2775 27c5-27c6 27e6-27ef 2983-2998 29d8-29db",
     "29fc-29fd 2e00-2e0d 2e1c-2e1d 2e20-2e29 2e42 2e55-2e5c 3008-3011 3014-301b 301d-301f",
     "fd3e-fd3f fe17-fe18 fe35-fe44 fe47-fe48 fe59-fe5e ff08-ff09 ff3b ff3d ff5b ff5d ff5f-ff60",
     "ff62-ff63 1f676-1f678"])]

/-- Letters with a case that sentences do not tell apart. -/
def uncasedLetters : CodeSet := .ofTable ["10d0-10fa 10fd-10ff 1c90-1cba 1cbd-1cbf"]

def sentenceLower : CodeSet :=
  ((lowercase.diff graphemeExtend).diff uncasedLetters).union (.only 0x295)

def sentenceUpper : CodeSet := (uppercase.union (category "Lt")).diff uncasedLetters

def sentenceExtend : CodeSet := .unions [graphemeExtend, category "Mc", .only 0x200d]

/-- The code points of a class for sentences. -/
def sentenceBreak? (name : String) : Option CodeSet :=
  match name with
  | "cr" => some (.only 0x0d)
  | "lf" => some (.only 0x0a)
  | "ex" | "extend" => some sentenceExtend
  | "lo" | "lower" => some sentenceLower
  | "up" | "upper" => some sentenceUpper
  | "nu" | "numeric" => some ((category "Nd").union (.range 0x66b 0x66c))
  | "le" | "oletter" =>
    some ((alphabetic.diff (.unions [sentenceLower, sentenceUpper, sentenceExtend])).union
      (.only 0x5f3))
  | _ =>
    let long := ([("se", "sep"), ("sp", "sp"), ("fo", "format"), ("at", "aterm"),
      ("sc", "scontinue"), ("st", "sterm"), ("cl", "close")].lookup name).getD name
    (sentenceTable.lookup long).map .ofTable

/-- The syllables that a vowel ends. -/
def openSyllables : CodeSet := .ofTable ["ac00-d788/1c"]

def prepend : CodeSet :=
  .ofTable
    ["600-605 6dd 70f 890-891 8e2 d4e 110bd 110cd 111c2-111c3 113d1 1193f 11941 11a3a",
     "11a84-11a89 11d46 11f02"]

/-- Marks with a place of their own that start a cluster. -/
def standingMarks : CodeSet :=
  .ofTable
    ["102b-102c 1038 1062-1064 1067-106d 1083 1087-108c 108f 109a-109c 1a61 1a63-1a64 aa7b aa7d",
     "11720-11721"]

def graphemeControl : CodeSet :=
  .ofTable
    ["0-9 b-c e-1f 7f-9f ad 61c 180e 200b 200e-200f 2028-202e 2060-206f feff fff0-fffb",
     "13430-1343f 1bca0-1bca3 1d173-1d17a e0000-e001f e0080-e00ff e01f0-e0fff"]

/-- The code points of a class for clusters. -/
def graphemeBreak? (name : String) : Option CodeSet :=
  let extend := graphemeExtend.union (listed "emojimodifier")
  match name with
  | "cr" => some (.only 0x0d)
  | "lf" => some (.only 0x0a)
  | "zwj" => some (.only 0x200d)
  | "ri" | "regionalindicator" => some (listed "regionalindicator")
  | "ex" | "extend" => some extend
  | "cn" | "control" => some graphemeControl
  | "pp" | "prepend" => some prepend
  | "sm" | "spacingmark" =>
    some ((((category "Mc").diff extend).diff standingMarks).union (.ofTable ["e33 eb3"]))
  | "l" => some (.ofTable ["1100-115f a960-a97c"])
  | "v" => some (.ofTable ["1160-11a7 d7b0-d7c6 16d63 16d67-16d6a"])
  | "t" => some (.ofTable ["11a8-11ff d7cb-d7fb"])
  | "lv" => some openSyllables
  | "lvt" => some ((CodeSet.range 0xac00 0xd7a3).diff openSyllables)
  | _ => none

end LivePreview.Unicode
