import Mathlib.Data.Nat.Find
import ModuleDocs.Proofs.PropertyValue

/-! # Values as they are written

A scan copies the text of a value as long as no here document opens. At the sign of a here document it writes another
sign (`Scan.Reads.scanValue_heredoc`). So what is found is the text behind the equals sign exactly if no here document
opens in the value (`findProperty_verbatim_iff`). -/
set_option autoImplicit false

namespace ModuleDocs.Hcl

open ModuleDocs.Text

/-! ## Signs of here documents -/

/-- The sign of a here document goes on with a dash or a name, never with a third angle bracket. -/
theorem exists_of_heredocStart? {cs name : List Char} {n : Nat} (h : heredocStart? cs = some (n, name)) :
    ∃ c rest, cs = '<' :: '<' :: c :: rest ∧ c ≠ '<' := by
  unfold heredocStart? at h
  split at h
  · next rest =>
    have hword : isWord '<' = false := by decide
    cases rest with
    | nil => simp at h
    | cons c rest =>
      refine ⟨c, rest, rfl, ?_⟩
      rintro rfl
      simp [hword] at h
  · cases h

section Scans
variable {cs : List Char} {k n : Nat} {s : Scan} {name : List Char}

theorem Scan.Reads.step_heredoc (property : String) (h : s.Reads cs k) (hout : ¬ InString cs k)
    (hstart : heredocStart? (cs.drop k) = some (n, name)) :
    ∃ rest, cs.drop k = '<' :: rest ∧ s.step property '<' rest =
      .ok { text := '<' :: '<' :: '<' :: '-' :: name
            state := { s with last := '<', escaped := false, heredoc := some name, skip := n } } := by
  obtain ⟨c, rest, hrest, -⟩ := exists_of_heredocStart? hstart
  have hquoted : s.quoted = false := by rw [h.quoted, decide_eq_false hout]
  refine ⟨'<' :: c :: rest, hrest, ?_⟩
  rw [hrest] at hstart
  unfold Scan.step
  simp [hquoted, h.heredoc, hstart]

/-- A scan that comes to a here document reads the text before it, and then a sign with an angle bracket too many. -/
theorem Scan.Reads.scanValue_heredoc (property : String) (h : s.Reads cs k) (hout : ¬ InString cs k)
    (hstart : heredocStart? (cs.drop k) = some (n, name)) {read stack : List Char}
    (hscan : scanValue property s (cs.drop k) = .ok (read, stack)) :
    ∃ more, read = '<' :: '<' :: '<' :: '-' :: more := by
  obtain ⟨rest, hrest, hstep⟩ := h.step_heredoc property hout hstart
  rw [hrest, scanValue_cons h.skip, hstep, ok_bind] at hscan
  simp only [Bool.false_eq_true, if_false, readAfter] at hscan
  obtain ⟨found, -, hread⟩ := map_eq_ok.mp hscan
  exact ⟨name ++ found.1, (congrArg Prod.fst hread).symm⟩

end Scans

/-- A here document that opens in a value, the first one, spoils what is read: the text before it is followed by another
sign than its own. -/
theorem exists_read_of_opensHeredoc {property : String} {cs read stack : List Char} {i : Nat}
    (hi : i < valueExtent cs) (hopens : OpensHeredoc cs i) (hscan : scanValue property {} cs = .ok (read, stack)) :
    ∃ k more c rest, read = cs.take k ++ '<' :: '<' :: '<' :: '-' :: more ∧ cs.drop k = '<' :: '<' :: c :: rest ∧
      c ≠ '<' := by
  have hfirst : ∃ i, OpensHeredoc cs i := ⟨i, hopens⟩
  have hk : Nat.find hfirst < valueExtent cs := Nat.lt_of_le_of_lt (Nat.find_min' hfirst hopens) hi
  obtain ⟨hout, hstart⟩ := Nat.find_spec hfirst
  have hno : ∀ j < Nat.find hfirst, ¬ OpensHeredoc cs j := fun j hj => Nat.find_min hfirst hj
  generalize Nat.find hfirst = k at hk hout hstart hno
  obtain ⟨sign, hsign⟩ := Option.isSome_iff_exists.mp hstart
  obtain ⟨c, rest, hrest, hc⟩ := exists_of_heredocStart? hsign
  have hlength : k ≤ cs.length := by
    by_contra hlt
    rw [List.drop_eq_nil_of_le (by omega)] at hrest
    cases hrest
  obtain ⟨s, hs, hrun⟩ | ⟨-, e, hrun⟩ := (Scan.reads_start cs).run property (Nat.zero_le k) hlength
    (fun j hj => not_endsValue_of_lt (by omega)) hno
  · rw [List.drop_zero, List.drop_zero, hscan] at hrun
    obtain ⟨found, hfound, hread⟩ := map_eq_ok.mp hrun.symm
    obtain ⟨more, hmore⟩ := hs.scanValue_heredoc property hout hsign hfound
    exact ⟨k, more, c, rest, by rw [← hmore]; exact (congrArg Prod.fst hread).symm, hrest, hc⟩
  · rw [List.drop_zero, hscan] at hrun
    cases hrun

/-! ## Found values -/

section Found
variable {property text : String} (m : AssignedAt property.toList text.toList)

/-- A value is found if the scan from the chosen place on leaves no bracket open. -/
theorem AssignedAt.findProperty_eq_ok (hname : isPlainName property.toList = true) (hm : m.IsChosen) {value : String}
    (h : findProperty text property = .ok value) :
    ∃ read rest, scanValue property {} m.text = .ok (read, []) ∧ dropAssignment property read = .ok rest ∧
      value.toList = trim rest := by
  rw [m.findProperty_eq hname hm] at h
  obtain ⟨⟨read, brackets⟩, hscan, h⟩ := bind_eq_ok.mp h
  dsimp only at h
  cases brackets with
  | cons first more => cases h
  | nil =>
    obtain ⟨rest, hrest, h⟩ := bind_eq_ok.mp h
    refine ⟨read, rest, hscan, hrest, ?_⟩
    rw [← pure_eq_ok.mp h, String.toList_ofList]

variable {m}

/-- What is found where a here document spoils the value is not what stands behind the equals sign. -/
theorem not_isPrefix_of_heredoc {c : Char} (hc : c ≠ '<') (front more rest : List Char) :
    ¬ trim (front ++ '<' :: '<' :: '<' :: '-' :: more) <+: trimStart (front ++ '<' :: '<' :: c :: rest) := by
  have hangle : isBlank '<' = false := by decide
  have hdash : isBlank '-' = false := by decide
  have hfound : trim (front ++ '<' :: '<' :: '<' :: '-' :: more) =
      trimStart front ++ '<' :: '<' :: '<' :: '-' :: trimEnd more := by
    have hsplit : trimStart front ++ '<' :: '<' :: '<' :: '-' :: more =
        (trimStart front ++ ['<', '<', '<']) ++ '-' :: more := by simp
    rw [trim, trimStart_append_cons hangle, hsplit, trimEnd_append_cons hdash]
    simp
  rw [hfound, trimStart_append_cons hangle, List.prefix_append_right_inj, List.cons_prefix_cons, List.cons_prefix_cons,
    List.cons_prefix_cons]
  exact fun h => hc h.2.2.1.symm

theorem trim_isPrefix (front rest : List Char) : trim front <+: trimStart (front ++ rest) := by
  refine (trimEnd_isPrefix (trimStart front)).trans ?_
  rw [trimStart_append]
  split
  · next hall =>
    rw [trimStart_eq_nil hall]
    exact List.nil_prefix
  · exact List.prefix_append _ _

section Scanned
variable {read rest : List Char} (hname : isPlainName property.toList = true)
  (hscan : scanValue property {} m.text = .ok (read, [])) (hrest : dropAssignment property read = .ok rest)
include hname hscan hrest

theorem AssignedAt.isPrefix_of_scan (hgap : '\n' ∉ m.gap) (hno : ∀ i < valueExtent m.text, ¬ OpensHeredoc m.text i) :
    trim rest <+: trimStart m.value := by
  have hread : read = m.lead ++ m.valueText := by
    obtain ⟨stack, -, hscan'⟩ | ⟨-, e, hscan'⟩ := scanValue_eq property hno
    · rw [hscan] at hscan'
      rw [(Prod.mk.inj (Except.ok.inj hscan')).1, m.take_valueExtent (m.newline_notMem_lead hname hgap)]
    · cases hscan.symm.trans hscan'
  rw [hread, m.dropAssignment_eq hname] at hrest
  have hpart : m.valueText <+: m.value := by
    rw [AssignedAt.valueText, AssignedAt.text, List.drop_take, List.drop_left]
    exact List.take_prefix _ _
  obtain ⟨after, hafter⟩ := hpart
  rw [← Except.ok.inj hrest, trim_trimStart, ← hafter]
  exact trim_isPrefix _ _

theorem AssignedAt.not_isPrefix_of_scan {i : Nat} (hi : i < valueExtent m.text) (hopens : OpensHeredoc m.text i) :
    ¬ trim rest <+: trimStart m.value := by
  obtain ⟨k, more, c, after, hread, hdrop, hc⟩ := exists_read_of_opensHeredoc hi hopens hscan
  -- The here document opens behind the equals sign.
  have hk : m.lead.length ≤ k := by
    by_contra hlt
    have hangle : m.text[k]? = some '<' := getElem?_of_drop_eq_cons hdrop
    rw [AssignedAt.text, List.getElem?_append_left (by omega)] at hangle
    exact m.notMem_lead hname (by decide) (by decide) (by decide) (List.mem_of_getElem? hangle)
  obtain ⟨n, rfl⟩ := Nat.exists_eq_add_of_le hk
  rw [hread, AssignedAt.text, List.take_length_add_append, List.append_assoc, m.dropAssignment_eq hname] at hrest
  rw [AssignedAt.text, ← List.drop_drop, List.drop_left] at hdrop
  have hnot := not_isPrefix_of_heredoc hc (m.value.take n) more after
  rwa [← hdrop, List.take_append_drop, ← trim_trimStart, Except.ok.inj hrest] at hnot

end Scanned

/-- What is found stands behind the equals sign as it is written, and so in the text, exactly if no here document opens
in the value. -/
theorem findProperty_verbatim_iff (hname : isIdentifier property = true) (hm : m.IsChosen) (hgap : '\n' ∉ m.gap)
    {value : String} (h : findProperty text property = .ok value) :
    (value.toList <+: trimStart m.value ↔ ∀ i < valueExtent m.text, ¬ OpensHeredoc m.text i) ∧
      ((∀ i < valueExtent m.text, ¬ OpensHeredoc m.text i) → value.toList <:+: text.toList) := by
  have hplain := isPlainName_of_isIdentifier hname
  obtain ⟨read, rest, hscan, hrest, hvalue⟩ := m.findProperty_eq_ok hplain hm h
  rw [hvalue]
  have hverbatim := AssignedAt.isPrefix_of_scan hplain hscan hrest hgap
  refine ⟨⟨fun hwritten i hi hopens => ?_, hverbatim⟩, fun hno => ?_⟩
  · exact AssignedAt.not_isPrefix_of_scan hplain hscan hrest hi hopens hwritten
  · have hsuffix : trimStart m.value <:+ text.toList := by
      refine (List.dropWhile_suffix isBlank).trans ⟨m.before ++ m.lead, ?_⟩
      rw [List.append_assoc]
      exact m.eq_append.symm
    exact (hverbatim hno).isInfix.trans hsuffix.isInfix

end Found

/-- A value with the sign of a here document inside a string, and another one in the line after it. -/
theorem findProperty_verbatim_sign_in_string :
    findProperty "b=[\n\"<<X\"]\nc=<<X\n" "b" = .ok "[\n\"<<X\"]" ∧
      "[\n\"<<X\"]".toList <:+: "b=[\n\"<<X\"]\nc=<<X\n".toList := by
  let m : AssignedAt "b".toList "b=[\n\"<<X\"]\nc=<<X\n".toList :=
    ⟨[], 0, [], "[\n\"<<X\"]\nc=<<X\n".toList, by decide, by simp, by simp⟩
  have hm : m.IsChosen := AssignedAt.isChosen_of_forall (by decide) (by decide)
  have hfound : findProperty "b=[\n\"<<X\"]\nc=<<X\n" "b" = .ok "[\n\"<<X\"]" := by decide +kernel
  have hno : ∀ i < valueExtent m.text, ¬ OpensHeredoc m.text i := by decide +kernel
  exact ⟨hfound, (findProperty_verbatim_iff (by decide) hm (by decide) hfound).2 hno⟩

/-- A here document is found with an angle bracket too many, and without the end of its first line. -/
theorem findProperty_heredoc_spoiled :
    findProperty "b=<<X\nhi\nX\n" "b" = .ok "<<<-Xhi\nX" ∧ ¬ "<<<-Xhi\nX".toList <:+: "b=<<X\nhi\nX\n".toList := by
  decide +kernel

end ModuleDocs.Hcl
