import ModuleDocs.Markdown.PlainText
import ModuleDocs.Proofs.Success
import ModuleDocs.Proofs.Text.Lines
import ModuleDocs.Proofs.Text.Split

/-! # Texts without a plain text

A line that begins with a comment is one block of HTML, with all that follows the comment (`readBlocks_commented`). A
reference in it to a character by a number of too many digits cannot be resolved, and the whole text has no plain text
(`plainText_numberedComment`). -/
set_option autoImplicit false

namespace ModuleDocs

open Text Markdown

/-! ## Comments -/

/-- A comment that a line begins. -/
def commented (rest : List Char) : List Char := '<' :: '!' :: '-' :: '-' :: rest

theorem exists_htmlKind?_commented (rest : List Char) : ∃ kind, htmlKind? false (commented rest) = some kind := by
  have hopening : Pattern.read? "<!--" =
      some { node := .seq (.char '<') (.seq (.char '!') (.seq (.char '-') (.char '-'))) } := by decide +kernel
  have hfound : (htmlKinds.find? fun kind => kind.opening.any (·.leads (commented rest))).isSome = true := by
    rw [List.find?_isSome]
    refine ⟨⟨Pattern.read? "<!--", Pattern.read? "-->"⟩, ?_, ?_⟩
    · unfold htmlKinds
      exact .tail _ (.head _)
    · rw [hopening]
      rfl
  obtain ⟨kind, hkind⟩ := Option.isSome_iff_exists.mp hfound
  refine ⟨kind, ?_⟩
  unfold htmlKind?
  rw [if_neg (fun h => h rfl), hkind]

def commentedLine (rest : List Char) : Line := { text := commented rest, shift := 0, column := 0, ending := [] }

theorem readBlock_commented (inner : Inner) (rest : List Char) :
    readBlock inner { bound := 1 } #[commentedLine rest] 0 1 (commentedLine rest) =
      ⟨some (.html (commented rest)), [], 1⟩ := by
  obtain ⟨kind, hkind⟩ := exists_htmlKind?_commented rest
  have hcontent : (commentedLine rest).content = commented rest := rfl
  have htext : textBetween #[commentedLine rest] 0 1 0 = commented rest := by
    change (commented rest ++ []) ++ [] = commented rest
    rw [List.append_nil, List.append_nil]
  rw [← htext]
  unfold readBlock
  rw [hcontent]
  simp only [hkind]
  -- Whether or not the line ends the block, there is no other line.
  cases kind.endsWith (commented rest) <;> rfl

/-- A comment at the start of the only line of a text makes one block of it. -/
theorem readBlocks_commented {rest : List Char} (h : '\n' ∉ commented rest) :
    readBlocks (commented rest) = ([.html (commented rest)], []) := by
  have hlines : documentLines (commented rest) = #[commentedLine rest] := by
    have hone : splitOn ['\n'] (commented rest) = [commented rest] := splitOn_of_notMem h
    unfold documentLines
    rw [hone]
    rfl
  have hnested : readNested (maxNesting + 1) { bound := 1 } #[commentedLine rest] 0 1 =
      { blocks := [.html (commented rest)], line := 1 } := by
    have hskip : skipEmpty #[commentedLine rest] 1 1 0 = 0 := rfl
    have hfirst : (#[commentedLine rest] : Array Line)[0]? = some (commentedLine rest) := rfl
    unfold readNested
    change readLines (readNested maxNesting) { bound := 1 } #[commentedLine rest] 1 2 false { line := 0 } = _
    unfold readLines
    simp only [List.size_toArray, List.length_singleton, hskip]
    rw [if_neg (by decide)]
    simp only [hfirst, readBlock_commented]
    rfl
  unfold readBlocks
  rw [hlines]
  change (let r := readNested (maxNesting + 1) { bound := 1 } #[commentedLine rest] 0 1
    (r.blocks.reverse, r.labels)) = _
  rw [hnested]
  rfl

/-! ## Numbers of characters -/

/-- A reference to a character by its number. -/
def numbered (digits : List Char) : List Char := '&' :: '#' :: (digits ++ [';'])

def numberedComment (digits : List Char) : List Char := commented ('-' :: '-' :: '>' :: numbered digits)

theorem numberedComment_eq (digits : List Char) :
    numberedComment digits = ['<', '!', '-', '-', '-', '-', '>'] ++ numbered digits := rfl

section Digits
variable {digits : List Char} (hdigits : ∀ c ∈ digits, isAsciiDigit c = true)
include hdigits

theorem notMem_numbered {c : Char} (hdigit : isAsciiDigit c = false) (hends : c ∉ ['&', '#', ';']) :
    c ∉ numbered digits := by
  have hmem : c ∉ digits := by
    intro hc
    cases hdigit.symm.trans (hdigits c hc)
  simp only [List.mem_cons, List.not_mem_nil, or_false, not_or] at hends
  simp [numbered, hmem, hends]

theorem notMem_numberedComment {c : Char} (hdigit : isAsciiDigit c = false)
    (hcomment : c ∉ ['<', '!', '-', '-', '-', '-', '>']) (hends : c ∉ ['&', '#', ';']) :
    c ∉ numberedComment digits := by
  rw [numberedComment_eq, List.mem_append, not_or]
  exact ⟨hcomment, notMem_numbered hdigits hdigit hends⟩

theorem unescape_numbered (hlong : maxDecimalDigits < digits.length) :
    unescape (numbered digits) = .error .longReference := by
  have href : htmlReference ('#' :: (digits ++ [';'])) = .error .longReference := by
    have htake : (digits ++ [';']).takeWhile isAsciiDigit = digits := by
      rw [List.takeWhile_append_of_pos hdigits]
      simp [isAsciiDigit]
    have hfirst : ∀ x, isAsciiDigit x = false → ((digits ++ [';']).head? == some x) = false := by
      intro x hx
      cases digits with
      | nil => cases hlong
      | cons d ds =>
        have hd := hdigits d List.mem_cons_self
        rw [List.cons_append, List.head?_cons, beq_eq_false_iff_ne]
        rintro ⟨⟩
        cases hx.symm.trans hd
    have hne : digits.isEmpty = false := by
      cases digits with
      | nil => cases hlong
      | cons d ds => rfl
    simp only [htmlReference, hfirst 'x' (by decide), hfirst 'X' (by decide), Bool.or_self, Bool.false_eq_true,
      if_false, htake, hne, Bool.not_false, Bool.true_and, decide_eq_true_eq, gt_iff_lt, if_pos hlong]
  unfold unescape
  change unescapeFrom (('#' :: (digits ++ [';'])).length + 1) ('&' :: '#' :: (digits ++ [';'])) = _
  rw [unescapeFrom, href]
  rfl

theorem htmlTextFrom_numbered (hlong : maxDecimalDigits < digits.length) (fuel : Nat) :
    htmlTextFrom (fuel + 1) (numbered digits) = .error .longReference := by
  have hwhole : (numbered digits ++ []).takeWhile (· != '<') = numbered digits ++ [].takeWhile (· != '<') := by
    refine List.takeWhile_append_of_pos fun c hc => bne_iff_ne.mpr ?_
    rintro rfl
    exact notMem_numbered hdigits (by decide) (by decide) hc
  rw [List.takeWhile_nil, List.append_nil] at hwhole
  -- The semicolon at the end shows that the reference is complete.
  have hends : endsInReference (numbered digits) = false := by
    simp [endsInReference, numbered]
  rw [htmlTextFrom]
  · rw [hwhole, hends, unescape_numbered hdigits hlong]
    simp only [Bool.and_false, Bool.false_eq_true, if_false]
    rfl
  · intro h
    cases h
  · intro more h
    cases h

theorem htmlText_numberedComment (hlong : maxDecimalDigits < digits.length) :
    htmlText (numberedComment digits) = .error .longReference := by
  have hopen : resolve? (numberedComment digits) = .ok (some { rest := numbered digits }) := rfl
  have hrest := htmlTextFrom_numbered hdigits hlong ((numbered digits).length + 5)
  unfold htmlText
  change htmlTextFrom ((numbered digits).length + 6 + 1) ('<' :: _) = _
  rw [htmlTextFrom]
  change resolve? (numberedComment digits) >>= _ = _
  rw [hopen, ok_bind]
  simp [hrest]

theorem plainText_numberedComment (hlong : maxDecimalDigits < digits.length) :
    plainText (String.ofList (numberedComment digits)) = .error .longReference := by
  have hnormal : normalText (numberedComment digits) = numberedComment digits := by
    rw [normalText, unifyNewlines_of_not_mem (notMem_numberedComment hdigits (by decide) (by decide) (by decide))]
    refine (List.map_congr_left fun c hc => if_neg fun hzero => ?_).trans (List.map_id _)
    obtain rfl : c = Char.ofNat 0 := Char.toNat_inj.mp hzero
    exact notMem_numberedComment hdigits (by decide) (by decide) (by decide) hc
  have hblocks : readBlocks (numberedComment digits) = ([.html (numberedComment digits)], []) :=
    readBlocks_commented (notMem_numberedComment hdigits (by decide) (by decide) (by decide))
  rw [plainText, String.toList_ofList, hnormal, hblocks]
  simp only [plainBlocks, Block.plain, htmlText_numberedComment hdigits hlong]
  rfl

end Digits

end ModuleDocs
