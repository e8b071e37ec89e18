import ModuleDocs.Text.Ranges

/-!
# Punctuation

The punctuation characters of the basic plane of Unicode, and of ASCII also the symbols.
-/
set_option autoImplicit false

namespace ModuleDocs.Text

/-- The punctuation beyond ASCII, in the basic plane. -/
def punctuationRanges : Ranges := Ranges.ofLines
    ["a1 a7 ab b6-b7 bb bf 37e 387 55a-55f 589-58a 5be 5c0 5c3 5c6 5f3-5f4 609-60a 60c-60d 61b",
    "61e-61f 66a-66d 6d4 700-70d 7f7-7f9 830-83e 85e 964-965 970 9fd a76 af0 c84 df4 e4f e5a-e5b",
    "f04-f12 f14 f3a-f3d f85 fd0-fd4 fd9-fda 104a-104f 10fb 1360-1368 1400 166d-166e 169b-169c",
    "16eb-16ed 1735-1736 17d4-17d6 17d8-17da 1800-180a 1944-1945 1a1e-1a1f 1aa0-1aa6 1aa8-1aad",
    "1b5a-1b60 1bfc-1bff 1c3b-1c3f 1c7e-1c7f 1cc0-1cc7 1cd3 2010-2027 2030-2043 2045-2051",
    "2053-205e 207d-207e 208d-208e 2308-230b 2329-232a 2768-2775 27c5-27c6 27e6-27ef 2983-2998",
    "29d8-29db 29fc-29fd 2cf9-2cfc 2cfe-2cff 2d70 2e00-2e2e 2e30-2e4e 3001-3003 3008-3011",
    "3014-301f 3030 303d 30a0 30fb a4fe-a4ff a60d-a60f a673 a67e a6f2-a6f7 a874-a877 a8ce-a8cf",
    "a8f8-a8fa a8fc a92e-a92f a95f a9c1-a9cd a9de-a9df aa5c-aa5f aade-aadf aaf0-aaf1 abeb",
    "fd3e-fd3f fe10-fe19 fe30-fe52 fe54-fe61 fe63 fe68 fe6a-fe6b ff01-ff03 ff05-ff0a ff0c-ff0f",
    "ff1a-ff1b ff1f-ff20 ff3b-ff3d ff3f ff5b ff5d ff5f-ff65"]

def isAsciiPunctuation (c : Char) : Bool :=
  let n := c.toNat
  (33 ≤ n && n ≤ 47) || (58 ≤ n && n ≤ 64) || (91 ≤ n && n ≤ 96) || (123 ≤ n && n ≤ 126)

def isPunctuation (c : Char) : Bool :=
  if c.toNat < 128 then isAsciiPunctuation c else punctuationRanges.has c.toNat

end ModuleDocs.Text
