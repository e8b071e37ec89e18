import ModuleDocs.Proofs.Document

/-! # The order in which files are visited

The items of a table are put in the order of their links. Where different items have different names, and no
name has a quote in it, different items have different links, so the table does not depend on the order in which
the items were found (`makeGrid_perm`). Hence the document on a module does not depend on the order in which its
files were visited (`formatModule_loadFiles_perm`). -/
set_option autoImplicit false

namespace ModuleDocs

open Hcl

/-! ## Tables -/

/-- Items that can be told apart by their links. -/
structure HasPlainNames {α : Type} (items : ItemTable α) : Prop where
  nodup : (items.map Prod.fst).Nodup
  no_quote : ∀ e ∈ items, '"' ∉ e.1.toList

section Tables
variable {α : Type} {settings : Settings} {items items' : ItemTable α}

theorem HasPlainNames.filter (h : HasPlainNames items) (p : String × Item α → Bool) :
    HasPlainNames (items.filter p) where
  nodup := h.nodup.sublist (List.filter_sublist.map _)
  no_quote e he := h.no_quote e (List.mem_filter.mp he).1

theorem HasPlainNames.eq_of_linkText (h : HasPlainNames items) {rest : List (Field α)}
    (htexts : HasTexts settings (Row.nameField α :: rest) items) {a b : String × Item α} (ha : a ∈ items)
    (hb : b ∈ items) (hlink : linkText settings a = linkText settings b) : a = b := by
  obtain ⟨text, htext⟩ := htexts a ha _ List.mem_cons_self
  obtain ⟨text', htext'⟩ := htexts b hb _ List.mem_cons_self
  rw [linkText, linkText, Field.text, Field.text, htext, htext', resultD_ok, resultD_ok] at hlink
  subst hlink
  exact List.inj_on_of_nodup_map h.nodup ha hb (link_injective (h.no_quote a ha) (h.no_quote b hb) htext htext')

/-- Sorting removes the order in which items were found. -/
theorem orderedItems_eq_of_perm (hsort : settings.format.sortOrder = .ascending) (h : HasPlainNames items)
    {rest : List (Field α)} (htexts : HasTexts settings (Row.nameField α :: rest) items)
    (hperm : items.Perm items') : orderedItems settings items = orderedItems settings items' := by
  have hitems := orderedItems_perm settings items
  have hitems' := orderedItems_perm settings items'
  refine List.Perm.eq_of_pairwise (fun a b ha hb hab hba => ?_) (pairwise_orderedItems hsort items)
    (pairwise_orderedItems hsort items') (hitems.trans (hperm.trans hitems'.symm))
  -- Links that come before each other are equal, and those belong to one item.
  refine h.eq_of_linkText htexts (hitems.mem_iff.mp ha) ?_ (String.le_antisymm hab hba)
  exact hperm.mem_iff.mpr (hitems'.mem_iff.mp hb)

theorem keptFields_eq_of_perm (fields : List (Field α)) (hperm : items.Perm items') :
    keptFields settings fields items = keptFields settings fields items' := by
  have hfilled : isFilled items (fun e (f : Field α) => f.text settings e) =
      isFilled items' fun e f => f.text settings e :=
    funext fun _ => hperm.any_eq
  rw [keptFields, keptFields, hfilled]

/-- Tables of the same items in two orders are equal. -/
theorem makeGrid_perm (hsort : settings.format.sortOrder = .ascending) {m : RowModel α} (hm : m.IsLinked)
    {skip : List String} (hname : "name" ∉ skip) (hitems : HasPlainNames items) (hperm : items.Perm items')
    {grid grid' : Grid} (h : makeGrid settings m skip items = .ok grid)
    (h' : makeGrid settings m skip items' = .ok grid') : grid = grid' := by
  obtain ⟨-, htexts, -, hgrid⟩ := (makeGrid_eq_ok hm hname).mp h
  obtain ⟨-, -, -, hgrid'⟩ := (makeGrid_eq_ok hm hname).mp h'
  obtain ⟨rest, hshown⟩ := hm.shown_eq hname
  rw [hshown] at htexts
  rw [← orderedItems_eq_of_perm hsort hitems htexts hperm, ← keptFields_eq_of_perm _ hperm, hgrid] at hgrid'
  exact Except.ok.inj hgrid'

end Tables

/-! ## Sections -/

/-- Sections that show the same items, found in two orders. -/
inductive DocumentSection.Similar : DocumentSection → DocumentSection → Prop
  | mk (part : Part) (title : String) (skip : List String) {items items' : ItemTable part.kind.Fields}
      (hname : "name" ∉ skip) (hitems : HasPlainNames items) (hperm : items.Perm items') :
      Similar ⟨part, title, skip, items, hname⟩ ⟨part, title, skip, items', hname⟩

section Sections
variable {settings : Settings}

theorem DocumentSection.Similar.text_eq (hsort : settings.format.sortOrder = .ascending) {s s' : DocumentSection}
    (hs : s.Similar s') {text text' : String} (h : s.text settings = .ok text) (h' : s'.text settings = .ok text') :
    text = text' := by
  obtain ⟨part, title, skip, hname, hitems, hperm⟩ := hs
  rename_i items items'
  by_cases hne : items = []
  · subst hne
    rw [List.nil_perm.mp hperm] at h'
    exact Except.ok.inj (h.symm.trans h')
  · have hne' : items' ≠ [] := fun e => hne (List.perm_nil.mp (e ▸ hperm))
    obtain ⟨grid, table, hgrid, htable, rfl⟩ := sectionOf_eq_ok hne h
    obtain ⟨grid', table', hgrid', htable', rfl⟩ := sectionOf_eq_ok hne' h'
    have hsame := makeGrid_perm hsort part.kind.isLinked hname hitems hperm hgrid hgrid'
    rw [← hsame, htable] at htable'
    rw [Except.ok.inj htable']

theorem similar_inputSections (format : FormatSettings) {items items' : ItemTable VariableFields}
    (hitems : HasPlainNames items) (hperm : items.Perm items') :
    List.Forall₂ DocumentSection.Similar (inputSections format items) (inputSections format items') := by
  unfold inputSections
  split
  · exact .cons (.mk .inputs _ _ _ (hitems.filter _) (hperm.filter _))
      (.cons (.mk .inputs _ _ _ (hitems.filter _) (hperm.filter _)) .nil)
  · exact .cons (.mk .inputs _ _ _ hitems hperm) .nil

theorem similar_ite (shown : Bool) {sections sections' : List DocumentSection}
    (h : List.Forall₂ DocumentSection.Similar sections sections') :
    List.Forall₂ DocumentSection.Similar (if shown then sections else []) (if shown then sections' else []) := by
  cases shown with
  | false => exact .nil
  | true => exact h

theorem similar_documentSections (format : FormatSettings) {inv inv' : Inventory}
    (hitems : ∀ p, HasPlainNames (inv.table p)) (hperm : ∀ p, (inv.table p).Perm (inv'.table p)) :
    List.Forall₂ DocumentSection.Similar (documentSections format inv) (documentSections format inv') := by
  have hsection : ∀ p title skip hname, List.Forall₂ DocumentSection.Similar
      [⟨p, title, skip, inv.table p, hname⟩] [⟨p, title, skip, inv'.table p, hname⟩] :=
    fun p title skip hname => .cons (.mk p title skip hname (hitems p) (hperm p)) .nil
  exact List.rel_append (similar_ite _ (hsection .resources _ _ _)) <|
    List.rel_append (similar_ite _ (hsection .locals _ _ _)) <|
    List.rel_append (similar_ite _ (similar_inputSections format (hitems .inputs) (hperm .inputs))) <|
    List.rel_append (similar_ite _ (hsection .outputs _ _ _)) <|
    List.rel_append (similar_ite _ (hsection .validationOutputs _ _ _))
      (similar_ite _ (hsection .validationResources _ _ _))

theorem formatSections_eq_of_similar (hsort : settings.format.sortOrder = .ascending)
    {sections sections' : List DocumentSection} (hsections : List.Forall₂ DocumentSection.Similar sections sections')
    {doc doc' : String} (h : formatSections settings sections = .ok doc)
    (h' : formatSections settings sections' = .ok doc') : doc = doc' := by
  unfold formatSections at h h'
  obtain ⟨_, -, h⟩ := bind_eq_ok.mp h
  obtain ⟨_, -, h'⟩ := bind_eq_ok.mp h'
  cases hformat : settings.targetConfig.format with
  | other name =>
    rw [hformat] at h
    cases h
  | markdown =>
    rw [hformat] at h h'
    simp only [bind_eq_ok, pure_eq_ok, sectionTexts] at h h'
    obtain ⟨_, -, _, -, _, ⟨texts, htexts, rfl⟩, rfl⟩ := h
    obtain ⟨_, -, _, -, _, ⟨texts', htexts', rfl⟩, rfl⟩ := h'
    rw [mapM_eq_mapM_of_forall₂ (fun _ _ _ _ hs => hs.text_eq hsort) hsections htexts htexts']

end Sections

/-! ## Documents -/

theorem table_perm_of_loadFiles {ws : Workspace} {parse : Parser} {settings : Settings}
    (hid : settings.format.addResourceIdentifier = true) {files files' : List Path} (hperm : files.Perm files')
    {inv inv' : Inventory} (h : loadFiles ws parse settings files = .ok inv)
    (h' : loadFiles ws parse settings files' = .ok inv') (p : Part) : (inv.table p).Perm (inv'.table p) := by
  obtain ⟨-, invs, hinvs, rfl⟩ := loadFiles_eq_ok hid h
  obtain ⟨-, invs', hinvs', rfl⟩ := loadFiles_eq_ok hid h'
  obtain ⟨-, rfl⟩ := (mapM_eq_ok_iff_map {}).mp hinvs
  obtain ⟨-, rfl⟩ := (mapM_eq_ok_iff_map {}).mp hinvs'
  rw [Inventory.table_concat, Inventory.table_concat]
  exact (hperm.map _).flatMap_right _

/-- Two visits of the same files in any orders, if both give a document, give the same one. Tables are in the order
of their links, which is the only order that a configuration can choose. -/
theorem formatModule_loadFiles_perm {ws : Workspace} {parse : Parser} {settings : Settings}
    (hid : settings.format.addResourceIdentifier = true) (hsort : settings.format.sortOrder = .ascending)
    {files files' : List Path} (hperm : files.Perm files')
    (hquote : ∀ inv, loadFiles ws parse settings files = .ok inv → ∀ p, ∀ e ∈ inv.table p, '"' ∉ e.1.toList)
    {doc doc' : String} (h : (loadFiles ws parse settings files >>= formatModule settings) = .ok doc)
    (h' : (loadFiles ws parse settings files' >>= formatModule settings) = .ok doc') : doc = doc' := by
  obtain ⟨inv, hinv, h⟩ := bind_eq_ok.mp h
  obtain ⟨inv', hinv', h'⟩ := bind_eq_ok.mp h'
  have hitems : ∀ p, HasPlainNames (inv.table p) :=
    fun p => ⟨(loadFiles_eq_ok hid hinv).1 p, hquote inv hinv p⟩
  rw [formatModule_eq] at h h'
  exact formatSections_eq_of_similar hsort
    (similar_documentSections settings.format hitems (table_perm_of_loadFiles hid hperm hinv hinv')) h h'

def localsText (name : String) : String := "locals \x7b\n  " ++ name ++ " = 1\n\x7d\n"

def localsWorkspace : Workspace where
  cwd := ["m"]
  files := ⟨[(["m"], .directory), (["m", "a.tf"], .file (localsText "a") false),
    (["m", "b.tf"], .file (localsText "b") false)]⟩

def localsParser : Parser := fun text =>
  .ok (.map [("locals", .list [.map [(if text = localsText "a" then "a" else "b", .int 1)]])])

def localItem (name : String) : String × Item LocalFields :=
  (name, ⟨⟨.int 1⟩, 2, "locals \x7b\n  " ++ name ++ " = 1\n\x7d", ⟨.here, [name ++ ".tf"]⟩⟩)

theorem exists_formatModule_locals {items : ItemTable LocalFields}
    (hperm : [localItem "a", localItem "b"].Perm items) : ∃ doc, formatModule {} { locals := items } = .ok doc := by
  have hplain : HasPlainNames [localItem "a", localItem "b"] := ⟨by decide +kernel, by decide +kernel⟩
  have hcells : ∀ e ∈ [localItem "a", localItem "b"], ∀ f ∈ localRow.fields, (f.cell {} e.1 e.2).isOk = true := by
    decide +kernel
  have htexts : HasTexts {} localRow.fields [localItem "a", localItem "b"] :=
    fun e he f hf => exists_of_isOk (hcells e he f hf)
  have hordered : orderedItems {} items = [localItem "a", localItem "b"] := by
    rw [← orderedItems_eq_of_perm rfl hplain htexts hperm, orderedItems, if_pos rfl]
    exact List.mergeSort_of_pairwise (by decide +kernel)
  have htexts' : HasTexts {} localRow.fields items := fun e he => htexts e (hperm.mem_iff.mpr he)
  obtain ⟨first, rest, hitems⟩ : ∃ first rest, items = first :: rest :=
    List.exists_cons_of_ne_nil fun e => List.cons_ne_nil _ _ (List.perm_nil.mp (e ▸ hperm))
  obtain ⟨grid, hgrid, table, htable⟩ : ∃ grid, makeGrid {} localRow [] items = .ok grid ∧
      ∃ table, Table.markdown grid = .ok table := by
    refine ⟨⟨["Name"], [["<a href=\"/a.tf#L2\" name=\"a\">a</a>"], ["<a href=\"/b.tf#L2\" name=\"b\">b</a>"]]⟩,
      (makeGrid_eq_ok ItemKind.locals.isLinked List.not_mem_nil).mpr ⟨⟨first, ?_, ?_⟩, htexts', rfl, ?_⟩,
      exists_of_isOk (by decide +kernel)⟩
    · rw [hitems, List.head?_cons]
    · exact ⟨_, cellsOf_eq_ok.mpr ⟨htexts' first (hitems ▸ List.mem_cons_self), rfl⟩⟩
    · rw [hordered, ← keptFields_eq_of_perm _ hperm]
      decide +kernel
  subst hitems
  have htext : sectionOf {} localRow "Locals" [] (first :: rest) = .ok (sectionFrame {} "Locals" table) :=
    bind_eq_ok.mpr ⟨table, bind_eq_ok.mpr ⟨(), rfl, bind_eq_ok.mpr ⟨grid, hgrid, htable⟩⟩, rfl⟩
  refine exists_of_isOk ?_
  unfold formatModule
  simp only [htext]
  rfl

/-- Two files with a local each can be visited in both orders. -/
theorem formatModule_loadFiles_perm_locals :
    ∃ doc,
      (loadFiles localsWorkspace localsParser {} [⟨.here, ["a.tf"]⟩, ⟨.here, ["b.tf"]⟩] >>= formatModule {}) =
        .ok doc ∧
      (loadFiles localsWorkspace localsParser {} [⟨.here, ["b.tf"]⟩, ⟨.here, ["a.tf"]⟩] >>= formatModule {}) =
        .ok doc := by
  have hload : loadFiles localsWorkspace localsParser {} [⟨.here, ["a.tf"]⟩, ⟨.here, ["b.tf"]⟩] =
      .ok { locals := [localItem "a", localItem "b"] } := by rfl
  have hload' : loadFiles localsWorkspace localsParser {} [⟨.here, ["b.tf"]⟩, ⟨.here, ["a.tf"]⟩] =
      .ok { locals := [localItem "b", localItem "a"] } := by rfl
  obtain ⟨doc, hdoc⟩ := exists_formatModule_locals (List.Perm.refl _)
  obtain ⟨doc', hdoc'⟩ := exists_formatModule_locals (List.Perm.swap _ _ _)
  have h := bind_eq_ok.mpr ⟨_, hload, hdoc⟩
  have h' := bind_eq_ok.mpr ⟨_, hload', hdoc'⟩
  have hquote : ∀ inv, loadFiles localsWorkspace localsParser {} [⟨.here, ["a.tf"]⟩, ⟨.here, ["b.tf"]⟩] = .ok inv →
      ∀ p, ∀ e ∈ inv.table p, '"' ∉ e.1.toList := by
    intro inv hinv
    cases hload.symm.trans hinv
    intro p
    cases p <;> decide +kernel
  have hsame := formatModule_loadFiles_perm rfl rfl (List.Perm.swap _ _ _) hquote h h'
  exact ⟨doc, h, hsame ▸ h'⟩

end ModuleDocs
