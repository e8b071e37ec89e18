import ModuleDocs.Text.Ranges

/-!
# Letter case

The lower-case form of a single character, and the lower-case characters that share an upper-case
form. Together they say when two characters differ in case only. Some letters stand for several in the
other case.
-/
set_option autoImplicit false

namespace ModuleDocs.Text

/-! ## Tables -/

/-- Reads groups of code points, one group a word. -/
def groupsOfLines (lines : List String) : List (List Nat) :=
  lines.flatMap fun line =>
    (line.splitOn " ").map fun word => (word.splitOn "-").map fun n => hexNumber n.toList

/-- Runs `first-last-lower` of upper-case characters beyond ASCII whose lower-case forms are
consecutive too. -/
def lowerRuns : List (List Nat) := groupsOfLines
    ["c0-d6-e0 d8-de-f8 130-130-69 178-178-ff 181-181-253 186-186-254 187-187-188 189-18a-256",
    "18b-18b-18c 18e-18e-1dd 18f-18f-259 190-190-25b 191-191-192 193-193-260 194-194-263",
    "196-196-269 197-197-268 198-198-199 19c-19c-26f 19d-19d-272 19f-19f-275 1a6-1a6-280",
    "1a7-1a7-1a8 1a9-1a9-283 1ac-1ac-1ad 1ae-1ae-288 1af-1af-1b0 1b1-1b2-28a 1b7-1b7-292",
    "1b8-1b8-1b9 1bc-1bc-1bd 1c4-1c4-1c6 1c5-1c5-1c6 1c7-1c7-1c9 1c8-1c8-1c9 1ca-1ca-1cc",
    "1f1-1f1-1f3 1f6-1f6-195 1f7-1f7-1bf 220-220-19e 23a-23a-2c65 23b-23b-23c 23d-23d-19a",
    "23e-23e-2c66 241-241-242 243-243-180 244-244-289 245-245-28c 376-376-377 37f-37f-3f3",
    "386-386-3ac 388-38a-3ad 38c-38c-3cc 38e-38f-3cd 391-3a1-3b1 3a3-3ab-3c3 3cf-3cf-3d7",
    "3f4-3f4-3b8 3f7-3f7-3f8 3f9-3f9-3f2 3fa-3fa-3fb 3fd-3ff-37b 400-40f-450 410-42f-430",
    "4c0-4c0-4cf 531-556-561 10a0-10c5-2d00 10c7-10c7-2d27 10cd-10cd-2d2d 13a0-13ef-ab70",
    "13f0-13f5-13f8 1c90-1cba-10d0 1cbd-1cbf-10fd 1e9e-1e9e-df 1f08-1f0f-1f00 1f18-1f1d-1f10",
    "1f28-1f2f-1f20 1f38-1f3f-1f30 1f48-1f4d-1f40 1f68-1f6f-1f60 1f88-1f8f-1f80 1f98-1f9f-1f90",
    "1fa8-1faf-1fa0 1fb8-1fb9-1fb0 1fba-1fbb-1f70 1fbc-1fbc-1fb3 1fc8-1fcb-1f72 1fcc-1fcc-1fc3",
    "1fd8-1fd9-1fd0 1fda-1fdb-1f76 1fe8-1fe9-1fe0 1fea-1feb-1f7a 1fec-1fec-1fe5 1ff8-1ff9-1f78",
    "1ffa-1ffb-1f7c 1ffc-1ffc-1ff3 2126-2126-3c9 212a-212a-6b 212b-212b-e5 2132-2132-214e",
    "2160-216f-2170 2183-2183-2184 24b6-24cf-24d0 2c00-2c2f-2c30 2c60-2c60-2c61 2c62-2c62-26b",
    "2c63-2c63-1d7d 2c64-2c64-27d 2c6d-2c6d-251 2c6e-2c6e-271 2c6f-2c6f-250 2c70-2c70-252",
    "2c72-2c72-2c73 2c75-2c75-2c76 2c7e-2c7f-23f 2cf2-2cf2-2cf3 a77d-a77d-1d79 a78b-a78b-a78c",
    "a78d-a78d-265 a7aa-a7aa-266 a7ab-a7ab-25c a7ac-a7ac-261 a7ad-a7ad-26c a7ae-a7ae-26a",
    "a7b0-a7b0-29e a7b1-a7b1-287 a7b2-a7b2-29d a7b3-a7b3-ab53 a7c4-a7c4-a794 a7c5-a7c5-282",
    "a7c6-a7c6-1d8e a7d0-a7d0-a7d1 a7f5-a7f5-a7f6 ff21-ff3a-ff41 10400-10427-10428",
    "104b0-104d3-104d8 10570-1057a-10597 1057c-1058a-105a3 1058c-10592-105b3 10594-10595-105bb",
    "10c80-10cb2-10cc0 118a0-118bf-118c0 16e40-16e5f-16e60 1e900-1e921-1e922"]

def lowerAlternatingRuns : List (List Nat) := groupsOfLines
    ["100-12e-101 132-136-133 139-147-13a 14a-176-14b 179-17d-17a 182-184-183 1a0-1a4-1a1",
    "1b3-1b5-1b4 1cb-1db-1cc 1de-1ee-1df 1f2-1f4-1f3 1f8-21e-1f9 222-232-223 246-24e-247",
    "370-372-371 3d8-3ee-3d9 460-480-461 48a-4be-48b 4c1-4cd-4c2 4d0-52e-4d1 1e00-1e94-1e01",
    "1ea0-1efe-1ea1 1f59-1f5f-1f51 2c67-2c6b-2c68 2c80-2ce2-2c81 2ceb-2ced-2cec a640-a66c-a641",
    "a680-a69a-a681 a722-a72e-a723 a732-a76e-a733 a779-a77b-a77a a77e-a786-a77f a790-a792-a791",
    "a796-a7a8-a797 a7b4-a7c2-a7b5 a7c7-a7c9-a7c8 a7d6-a7d8-a7d7"]

def sameUpperGroups : List (List Nat) := groupsOfLines
    ["69-131 73-17f b5-3bc 345-3b9-1fbe 390-1fd3 3b0-1fe3 3b2-3d0 3b5-3f5 3b8-3d1 3ba-3f0 3c0-3d6",
    "3c1-3f1 3c2-3c3 3c6-3d5 432-1c80 434-1c81 43e-1c82 441-1c83 442-1c84-1c85 44a-1c86 463-1c87",
    "1c88-a64b 1e61-1e9b fb05-fb06"]

/-- Letters `letter=first+second…` that another case writes as several. The letters are given in lower case,
those with one common upper-case form by the first of them. -/
def expandedLetters : List (Nat × List Nat) :=
  let lines :=
    ["df=73+73 130=69+307 149=2bc+6e 1f0=6a+30c 390=345+308+301 3b0=3c5+308+301 587=565+582",
    "1e96=68+331 1e97=74+308 1e98=77+30a 1e99=79+30a 1e9a=61+2be 1f50=3c5+313 1f52=3c5+313+300",
    "1f54=3c5+313+301 1f56=3c5+313+342 1f80=1f00+345 1f81=1f01+345 1f82=1f02+345 1f83=1f03+345",
    "1f84=1f04+345 1f85=1f05+345 1f86=1f06+345 1f87=1f07+345 1f90=1f20+345 1f91=1f21+345",
    "1f92=1f22+345 1f93=1f23+345 1f94=1f24+345 1f95=1f25+345 1f96=1f26+345 1f97=1f27+345",
    "1fa0=1f60+345 1fa1=1f61+345 1fa2=1f62+345 1fa3=1f63+345 1fa4=1f64+345 1fa5=1f65+345",
    "1fa6=1f66+345 1fa7=1f67+345 1fb2=1f70+345 1fb3=3b1+345 1fb4=3ac+345 1fb6=3b1+342",
    "1fb7=3b1+342+345 1fc2=1f74+345 1fc3=3b7+345 1fc4=3ae+345 1fc6=3b7+342 1fc7=3b7+342+345",
    "1fd2=345+308+300 1fd3=345+308+301 1fd6=345+342 1fd7=345+308+342 1fe2=3c5+308+300",
    "1fe3=3c5+308+301 1fe4=3c1+313 1fe6=3c5+342 1fe7=3c5+308+342 1ff2=1f7c+345 1ff3=3c9+345",
    "1ff4=3ce+345 1ff6=3c9+342 1ff7=3c9+342+345 fb00=66+66 fb01=66+69 fb02=66+6c fb03=66+66+69",
    "fb04=66+66+6c fb05=73+74 fb06=73+74 fb13=574+576 fb14=574+565 fb15=574+56b fb16=57e+576",
    "fb17=574+56d"]
  lines.flatMap fun line => (line.splitOn " ").filterMap fun word =>
    match word.splitOn "=" with
    | [letter, letters] => some (hexNumber letter.toList, (letters.splitOn "+").map (hexNumber ·.toList))
    | _ => none

/-! ## Lower case -/

def lowerInRuns? (runs : List (List Nat)) (step n : Nat) : Option Nat :=
  runs.findSome? fun
    | [first, last, lower] =>
      if first ≤ n && n ≤ last && (n - first) % step == 0 then some (lower + (n - first)) else none
    | _ => none

def upperInRuns (runs : List (List Nat)) (step n : Nat) : List Nat :=
  runs.filterMap fun
    | [first, last, lower] =>
      if lower ≤ n && n ≤ lower + (last - first) && (n - lower) % step == 0 then
        some (first + (n - lower))
      else none
    | _ => none

def lowerCode (n : Nat) : Nat :=
  if n < 128 then if 65 ≤ n && n ≤ 90 then n + 32 else n
  else (lowerInRuns? lowerRuns 1 n <|> lowerInRuns? lowerAlternatingRuns 2 n).getD n

/-- The lower-case form of a code point when only ASCII letters have case. -/
def lowerAsciiCode (n : Nat) : Nat := if 65 ≤ n && n ≤ 90 then n + 32 else n

/-- The code points other than `n` whose lower-case form is `n`. -/
def upperCodes (n : Nat) : List Nat :=
  (if 97 ≤ n && n ≤ 122 then [n - 32] else []) ++ (upperInRuns lowerRuns 1 n) ++
    (upperInRuns lowerAlternatingRuns 2 n)

/-- The lower-case code points that have the same upper-case form as `n`, which is lower case. -/
def sameUpper (n : Nat) : List Nat :=
  match sameUpperGroups.find? (·.contains n) with
  | some group => group
  | none => [n]

def caselessCodes (n : Nat) : List Nat :=
  if n < 128 then sameUpper (lowerCode n) |>.take 1
  else
    match expandedLetters.lookup n, expandedLetters.lookup (lowerCode n) with
    | some letters, _ => letters
    | none, some letters => letters
    | none, none => (sameUpper (lowerCode n)).take 1

/-- All code points that differ from `n` in case only, `n` among them. -/
def caseVariants (n : Nat) : List Nat :=
  n :: (sameUpper (lowerCode n)).flatMap fun low => low :: upperCodes low

def asciiCaseVariants (n : Nat) : List Nat :=
  if 65 ≤ n && n ≤ 90 then [n, n + 32] else if 97 ≤ n && n ≤ 122 then [n, n - 32] else [n]

end ModuleDocs.Text
