import ModuleDocs.Proofs.Block
import ModuleDocs.Proofs.Declared
import ModuleDocs.Proofs.Text.Lines

/-! # Places of declarations

An item of an inventory has the number of the line that opens it, and a block of lines. Lines are counted by the line
feeds before them, and blocks are cut out of the lines of the text; in a text without other line ends both speak of the
same lines (`stands_of_find`). So every item of a file stands where its inventory says (`loadFile_places`). -/
set_option autoImplicit false

namespace ModuleDocs.Hcl

open ModuleDocs.Text

/-! ## Places -/

/-- A block stands at a line: that line opens it, no other one does, and the block goes on to the first closing brace
that is alone on its line. Lines are numbered from one. -/
def Stands (opens : String → Prop) (ls : List String) (loc : Int) (block : String) : Prop :=
  ∃ before line body after, ls = before ++ line :: (body ++ "\x7d" :: after) ∧ opens line ∧
    (∀ other ∈ before ++ (body ++ "\x7d" :: after), ¬ opens other) ∧ "\x7d" ∉ body ∧
    loc = before.length + 1 ∧ block = unlines (line :: (body ++ ["\x7d"]))

/-- A text has no line ends but line feeds. -/
def HasOnlyLineFeeds (text : String) : Prop := ∀ c ∈ text.toList, isLineEnd c = true → c = '\n'

instance (text : String) : Decidable (HasOnlyLineFeeds text) :=
  decidable_of_iff (text.toList.all fun c => !isLineEnd c || c = '\n') <| by
    simp [HasOnlyLineFeeds, ← Bool.not_eq_true, imp_iff_not_or]

/-! ## Numbers of lines -/

/-- The numbers of the lines that pass a test, from some number on. -/
def numbered (test : List Char → Bool) (start : Nat) (ls : List (List Char)) : List Nat :=
  (ls.zipIdx start).filterMap fun p => if test p.1 then some p.2 else none

section Numbers
variable {test : List Char → Bool}

theorem numbered_cons (start : Nat) (l : List Char) (ls : List (List Char)) :
    numbered test start (l :: ls) =
      if test l then start :: numbered test (start + 1) ls else numbered test (start + 1) ls := by
  unfold numbered
  rw [List.zipIdx_cons, List.filterMap_cons]
  by_cases h : test l <;> simp [h]

theorem forall_of_numbered_eq_nil {start : Nat} {ls : List (List Char)} (h : numbered test start ls = []) :
    ∀ l ∈ ls, test l = false := by
  induction ls generalizing start with
  | nil => exact fun l hl => absurd hl List.not_mem_nil
  | cons k ls ih =>
    rw [numbered_cons] at h
    split at h
    · cases h
    · next hk => exact List.forall_mem_cons.mpr ⟨by simpa using hk, ih h⟩

/-- If one line is numbered, no other one passes the test. -/
theorem exists_of_numbered_eq_singleton {start loc : Nat} {ls : List (List Char)}
    (h : numbered test start ls = [loc]) :
    ∃ before line after, ls = before ++ line :: after ∧ test line = true ∧
      (∀ other ∈ before ++ after, test other = false) ∧ loc = start + before.length := by
  induction ls generalizing start with
  | nil => cases h
  | cons l ls ih =>
    rw [numbered_cons] at h
    by_cases hl : test l = true
    · rw [if_pos hl] at h
      obtain ⟨rfl, hnil⟩ := List.cons.inj h
      exact ⟨[], l, ls, rfl, hl, forall_of_numbered_eq_nil hnil, rfl⟩
    · rw [if_neg hl] at h
      obtain ⟨before, line, after, rfl, hline, hothers, rfl⟩ := ih h
      refine ⟨l :: before, line, after, rfl, hline, ?_, by rw [List.length_cons]; omega⟩
      exact List.forall_mem_cons.mpr ⟨by simpa using hl, hothers⟩

theorem numberedLines_eq (hempty : test [] = false) {text : String} (htext : HasOnlyLineFeeds text) :
    numberedLines test text = numbered test 1 (lines text.toList) := by
  change numbered test 1 (splitOn ['\n'] text.toList) = _
  rcases splitOn_newline htext with e | e
  · rw [e]
  · -- The empty piece after the last line feed is no line, and passes no test.
    rw [e, numbered, List.zipIdx_append, List.filterMap_append]
    simp [numbered, hempty]

end Numbers

/-! ## Blocks -/

theorem findBlock_eq_ok {before after : List String} {line block : String} (hline : line ≠ "\x7d") {start : LineTest}
    (h : findBlock (before ++ line :: after) start .closingBrace (Int.ofNat (before.length + 1)) = .ok block) :
    ∃ body rest, after = body ++ "\x7d" :: rest ∧ "\x7d" ∉ body ∧ block = unlines (line :: (body ++ ["\x7d"])) := by
  rw [findBlock_cut] at h
  obtain ⟨starts, -, h⟩ := bind_eq_ok.mp h
  split at h
  · obtain ⟨stops, hstops, h⟩ := bind_eq_ok.mp h
    cases hstops
    split at h
    · next block' hblock =>
      obtain ⟨body, stop, rest, hlines, hstop, hbody, rfl⟩ := takeThrough_eq_some hblock
      obtain rfl : stop = "\x7d" := of_decide_eq_true hstop
      cases h
      -- The block does not end with its first line, which is no closing brace.
      cases body with
      | nil => exact absurd (List.cons.inj hlines).1 hline
      | cons first body =>
        obtain ⟨rfl, rfl⟩ := List.cons.inj hlines
        refine ⟨body, rest, rfl, fun hm => ?_, rfl⟩
        exact absurd (hbody _ (List.mem_cons_of_mem _ hm)) (by decide)
    · cases h
  · cases h

/-! ## Openings -/

/-- What is found are the numbers of all opening lines, each with the block that is found at it. -/
theorem Opening.find_eq_ok_iff {o : Opening} {numbers : String → List Nat} (hlines : o.lines = .ok numbers)
    {text : String} {found : List (Nat × String)} :
    o.find text = .ok found ↔ numbers text ≠ [] ∧ found.map Prod.fst = numbers text ∧
      ∀ e ∈ found, findBlock (linesOf text) ⟨o.source, o.opens⟩ .closingBrace (Int.ofNat e.1) = .ok e.2 := by
  unfold Opening.find
  rw [hlines, ok_bind]
  dsimp only
  constructor
  · intro h
    split at h
    · cases h
    · next hne =>
      obtain ⟨blocks, hblocks, h⟩ := bind_eq_ok.mp h
      have hmap := mapM_eq_ok.mp (findBlocks_eq_ok_iff.mp hblocks).2
      rw [List.forall₂_map_left_iff] at hmap
      obtain rfl := pure_eq_ok.mp h
      refine ⟨by simpa using hne, List.map_fst_zip (Nat.le_of_eq hmap.length_eq), fun e he => ?_⟩
      exact List.forall₂_iff_zip.mp hmap |>.2 he
  · rintro ⟨hne, hnumbers, hblocks⟩
    have hmap : ((numbers text).map Int.ofNat).mapM
        (findBlock (linesOf text) ⟨o.source, o.opens⟩ .closingBrace) = .ok (found.map Prod.snd) := by
      rw [mapM_eq_ok, ← hnumbers, List.map_map, List.forall₂_map_left_iff, List.forall₂_map_right_iff,
        List.forall₂_same]
      exact hblocks
    have hlocs : (numbers text).map Int.ofNat ≠ [] := by simpa using hne
    have hzip : (numbers text).zip (found.map Prod.snd) = found := (List.zip_of_prod hnumbers rfl).symm
    rw [if_neg (by simpa using hne), findBlocks_eq_ok_iff.mpr ⟨hlocs, hmap⟩]
    simp only [bind, Except.bind, pure, Except.pure, hzip]

theorem Opening.find_eq_ok {o : Opening} {numbers : String → List Nat} (hlines : o.lines = .ok numbers) {text : String}
    {loc : Nat} {block : String} (h : o.find text = .ok [(loc, block)]) :
    numbers text = [loc] ∧
      findBlock (linesOf text) ⟨o.source, o.opens⟩ .closingBrace (Int.ofNat loc) = .ok block := by
  obtain ⟨-, hnumbers, hblocks⟩ := (Opening.find_eq_ok_iff hlines).mp h
  exact ⟨hnumbers.symm, hblocks _ (List.mem_singleton_self _)⟩

/-- The only opening line that is found stands where it is said to. Opening lines have quotes in them, which blank lines
and closing braces have not. -/
theorem stands_of_find {o : Opening} (test : List Char → Bool) (hlines : o.lines = .ok (numberedLines test))
    {opens : String → Prop} (hopens : ∀ line, opens line ↔ test line.toList = true)
    (hquote : ∀ line, opens line → '"' ∈ line.toList) {text : String} (htext : HasOnlyLineFeeds text) {loc : Nat}
    {block : String} (h : o.find text = .ok [(loc, block)]) : Stands opens (linesOf text) loc block := by
  have hempty : test [] = false := by
    rw [Bool.eq_false_iff]
    exact fun e => absurd (hquote "" ((hopens "").mpr e)) (by decide)
  obtain ⟨hlocs, hblock⟩ := Opening.find_eq_ok hlines h
  rw [numberedLines_eq hempty htext] at hlocs
  obtain ⟨before, line, after, hcut, hline, hothers, rfl⟩ := exists_of_numbered_eq_singleton hlocs
  have hcut' : linesOf text = before.map String.ofList ++ String.ofList line :: after.map String.ofList := by
    rw [linesOf, hcut, List.map_append, List.map_cons]
  have hopen : opens (String.ofList line) := by
    rwa [hopens, String.toList_ofList]
  have hbrace : String.ofList line ≠ "\x7d" := by
    intro e
    exact absurd (e ▸ hquote _ hopen) (by decide)
  rw [hcut', Nat.add_comm, ← List.length_map (f := String.ofList)] at hblock
  obtain ⟨body, rest, hafter, hbody, rfl⟩ := findBlock_eq_ok hbrace hblock
  refine ⟨before.map String.ofList, String.ofList line, body, rest, by rw [hcut', hafter], hopen, ?_, hbody, ?_, rfl⟩
  · rw [← hafter, ← List.map_append]
    intro other hother
    obtain ⟨l, hl, rfl⟩ := List.mem_map.mp hother
    rw [hopens, String.toList_ofList, hothers l hl]
    exact Bool.false_ne_true
  · rw [List.length_map]
    omega

/-! ## Opening lines of declarations -/

/-- Whether a name is an identifier; hyphens may stand in it, but not first. -/
def isIdentifier (name : String) : Bool :=
  match name.toList with
  | [] => false
  | c :: rest => startsName c && rest.all fun d => continuesName d || d == '-'

theorem exists_cons_of_isIdentifier {name : String} (h : isIdentifier name = true) :
    ∃ c rest, name.toList = c :: rest ∧ startsName c = true ∧ ∀ d ∈ rest, (continuesName d || d == '-') = true := by
  unfold isIdentifier at h
  split at h
  · cases h
  · next c rest hname =>
    rw [Bool.and_eq_true, List.all_eq_true] at h
    exact ⟨c, rest, hname, h.1, h.2⟩

theorem continues_of_isIdentifier {name : String} (h : isIdentifier name = true) :
    ∀ c ∈ name.toList, (continuesName c || c == '-') = true := by
  obtain ⟨c, rest, hname, hc, hrest⟩ := exists_cons_of_isIdentifier h
  rw [hname]
  exact List.forall_mem_cons.mpr ⟨by simp [continuesName, hc], hrest⟩

theorem isPlainName_of_isIdentifier {name : String} (h : isIdentifier name = true) :
    isPlainName name.toList = true := by
  have hne : name.toList.isEmpty = false := by
    obtain ⟨c, rest, hname, -⟩ := exists_cons_of_isIdentifier h
    rw [hname, List.isEmpty_cons]
  rw [isPlainName, hne, Bool.not_false, Bool.true_and, List.all_eq_true]
  intro c hc
  rw [Bool.or_assoc, continues_of_isIdentifier h c hc, Bool.or_true]

theorem notMem_of_isPlainName {name : List Char} (hname : isPlainName name = true) {c : Char}
    (hc : (isWord c || continuesName c || c == '-') = false) : c ∉ name := by
  intro hmem
  rw [isPlainName, Bool.and_eq_true, List.all_eq_true] at hname
  have hplain := hname.2 c hmem
  rw [hc] at hplain
  cases hplain

/-- The line that opens a declaration with a keyword and one name. -/
def openingLine (keyword name : String) : String := keyword ++ " \"" ++ name ++ "\" \x7b"

def resourceLead (type identifier : String) : String :=
  "resource \"" ++ type ++ "\" \"" ++ identifier ++ "\" \x7b"

theorem stands_of_namedOpening {keyword name : String} (hname : isIdentifier name = true) {text : String}
    (htext : HasOnlyLineFeeds text) {loc : Nat} {block : String}
    (h : (namedOpening keyword name).find text = .ok [(loc, block)]) :
    Stands (· = openingLine keyword name) (linesOf text) loc block := by
  rw [namedOpening, if_pos (isPlainName_of_isIdentifier hname)] at h
  refine stands_of_find (· = (openingLine keyword name).toList) rfl (fun line => ?_) (fun line hline => ?_)
    htext h
  · rw [decide_eq_true_iff, String.toList_inj]
  · rw [hline, openingLine]
    simp

theorem stands_of_resourceOpening {type identifier : String} (htype : isIdentifier type = true)
    (hidentifier : isIdentifier identifier = true) {o : Opening} (ho : resourceOpening type identifier = .ok o)
    {text : String} (htext : HasOnlyLineFeeds text) {loc : Nat} {block : String}
    (h : o.find text = .ok [(loc, block)]) :
    Stands (fun line => (resourceLead type identifier).toList <+: line.toList) (linesOf text) loc block := by
  rw [resourceOpening, isPlainName_of_isIdentifier htype, isPlainName_of_isIdentifier hidentifier, Bool.and_self,
    if_pos rfl] at ho
  cases ho
  refine stands_of_find ((resourceLead type identifier).toList.isPrefixOf ·) rfl (fun line => ?_)
    (fun line hline => hline.subset ?_) htext h
  · rw [List.isPrefixOf_iff_prefix]
  · unfold resourceLead
    simp

/-! ## Items -/

section Items
variable {α : Type} {kind : String} {replace : Bool} {file : Path} {text : String}

theorem Entry.item_eq_ok {e : Entry α} {item : Item α} (h : e.item file text = .ok item) :
    item.data = e.data ∧ ∃ loc : Nat, e.find text = .ok [(loc, item.block)] ∧ item.loc = loc := by
  obtain ⟨found, hfound, h⟩ := bind_eq_ok.mp h
  split at h
  · next loc block =>
    cases h
    exact ⟨rfl, loc, hfound, rfl⟩
  · cases h

theorem mem_setEntry {name : String} {item : Item α} {table : ItemTable α} {e : String × Item α}
    (h : e ∈ Value.setEntry name item table) : e ∈ table ∨ e = (name, item) := by
  induction table with
  | nil => exact .inr (List.mem_singleton.mp h)
  | cons first table ih =>
    rw [Value.setEntry] at h
    split at h
    · next hname =>
      subst hname
      rcases List.mem_cons.mp h with rfl | h
      · exact .inr rfl
      · exact .inl (List.mem_cons_of_mem _ h)
    · rcases List.mem_cons.mp h with rfl | h
      · exact .inl List.mem_cons_self
      · exact (ih h).imp_left (List.mem_cons_of_mem _)

theorem mem_addItem {table table' : ItemTable α} {name : String} {item : Item α}
    (h : addItem kind replace table name item = .ok table') {e : String × Item α} (he : e ∈ table') :
    e ∈ table ∨ e = (name, item) := by
  unfold addItem at h
  split at h
  · cases h
  · cases h
    exact mem_setEntry he

def tableStep (kind : String) (replace : Bool) (file : Path) (text : String) (table : ItemTable α) (e : Entry α) :
    Except Error (ItemTable α) := do
  if (table.lookup e.name).isSome && !replace then .error (.alreadyDefined kind e.name)
  addItem kind replace table e.name (← e.item file text)

theorem mem_tableStep {table table' : ItemTable α} {entry : Entry α}
    (h : tableStep kind replace file text table entry = .ok table') {e : String × Item α} (he : e ∈ table') :
    e ∈ table ∨ (entry.name = e.1 ∧ entry.item file text = .ok e.2) := by
  unfold tableStep at h
  split at h
  · cases h
  · obtain ⟨item, hitem, h⟩ := bind_eq_ok.mp h
    refine (mem_addItem h he).imp_right fun heq => ?_
    subst heq
    exact ⟨rfl, hitem⟩

theorem mem_foldlM_tableStep {entries : List (Entry α)} {start table : ItemTable α}
    (h : entries.foldlM (tableStep kind replace file text) start = .ok table) {e : String × Item α} (he : e ∈ table) :
    e ∈ start ∨ ∃ entry ∈ entries, entry.name = e.1 ∧ entry.item file text = .ok e.2 := by
  induction entries generalizing start with
  | nil =>
    cases h
    exact .inl he
  | cons entry entries ih =>
    rw [List.foldlM_cons] at h
    obtain ⟨next, hnext, h⟩ := bind_eq_ok.mp h
    rcases ih h with hmem | ⟨found, hfound, hitem⟩
    · exact (mem_tableStep hnext hmem).imp_right fun hitem => ⟨entry, List.mem_cons_self, hitem⟩
    · exact .inr ⟨found, List.mem_cons_of_mem entry hfound, hitem⟩

/-- All items of a table are those of entries, whether some replace others or not. -/
theorem mem_tableOf {entries : List (Entry α)} {table : ItemTable α}
    (h : tableOf kind replace file text entries = .ok table) {e : String × Item α} (he : e ∈ table) :
    ∃ entry ∈ entries, entry.name = e.1 ∧ entry.item file text = .ok e.2 := by
  have hrun : entries.foldlM (tableStep kind replace file text) [] = .ok table := h
  exact (mem_foldlM_tableStep hrun he).resolve_left List.not_mem_nil

end Items

/-! ## Inventories of files -/

/-- All declared names are identifiers. -/
structure Declarations.HasIdentifiers (d : Declarations) : Prop where
  inputs : ∀ v ∈ d.inputs, isIdentifier v.name = true
  outputs : ∀ o ∈ d.outputs, isIdentifier o.name = true
  types : ∀ r ∈ d.resources, isIdentifier r.type = true
  instances : ∀ r ∈ d.resources, ∀ i ∈ r.instances, isIdentifier i.1 = true

instance (d : Declarations) : Decidable d.HasIdentifiers :=
  decidable_of_iff ((∀ v ∈ d.inputs, isIdentifier v.name = true) ∧ (∀ o ∈ d.outputs, isIdentifier o.name = true) ∧
      (∀ r ∈ d.resources, isIdentifier r.type = true) ∧
      ∀ r ∈ d.resources, ∀ i ∈ r.instances, isIdentifier i.1 = true)
    ⟨fun h => ⟨h.1, h.2.1, h.2.2.1, h.2.2.2⟩, fun h => ⟨h.inputs, h.outputs, h.types, h.instances⟩⟩

/-- The name that a resource is shown by. -/
def Resource.shownName (addIdentifier : Bool) (r : Resource) (identifier : String) : String :=
  if addIdentifier then r.type ++ "." ++ identifier else r.type

section Files
variable {kind : String} {replace : Bool} {file : Path} {text : String}

/-- The items of a table stand at their opening lines, if these have a keyword and one name. -/
theorem stands_of_tableOf {α : Type} {keyword : String} {entries : List (Entry α)}
    (hentries : ∀ entry ∈ entries, isIdentifier entry.name = true ∧ entry.find = (namedOpening keyword entry.name).find)
    (htext : HasOnlyLineFeeds text) {table : ItemTable α} (h : tableOf kind replace file text entries = .ok table) :
    ∀ e ∈ table, Stands (· = openingLine keyword e.1) (linesOf text) e.2.loc e.2.block := by
  intro e he
  obtain ⟨entry, hentry, hname, hitem⟩ := mem_tableOf h he
  obtain ⟨hidentifier, hfind⟩ := hentries entry hentry
  obtain ⟨-, loc, hfound, hloc⟩ := Entry.item_eq_ok hitem
  rw [hfind, hname] at hfound
  rw [hname] at hidentifier
  rw [hloc]
  exact stands_of_namedOpening hidentifier htext hfound

theorem mem_instances_of_identified {r : Resource} {i : String × ResourceFields} (h : r.identified = .ok i) :
    i ∈ r.instances := by
  unfold Resource.identified at h
  split at h
  · cases h
  · next first rest hinstances =>
    cases h
    rw [hinstances]
    exact List.mem_cons_self

/-- The resources in a table stand at the lines that start with their type and identifier. -/
theorem stands_of_resources {addIdentifier : Bool} {d : Declarations} (hnames : d.HasIdentifiers)
    {all entries : List (Entry ResourceFields)} (hall : d.resources.mapM (Resource.entry addIdentifier) = .ok all)
    (hentries : entries ⊆ all) (htext : HasOnlyLineFeeds text) {table : ItemTable ResourceFields}
    (h : tableOf kind replace file text entries = .ok table) :
    ∀ e ∈ table, ∃ r ∈ d.resources, ∃ identifier, r.identified = .ok (identifier, e.2.data) ∧
      e.1 = r.shownName addIdentifier identifier ∧
      Stands (fun line => (resourceLead r.type identifier).toList <+: line.toList) (linesOf text) e.2.loc
        e.2.block := by
  intro e he
  obtain ⟨entry, hentry, hname, hitem⟩ := mem_tableOf h he
  obtain ⟨r, hr, hentry⟩ := exists_of_mem_mapM hall (hentries hentry)
  obtain ⟨⟨identifier, fields⟩, hidentified, hentry⟩ := bind_eq_ok.mp hentry
  cases hentry
  obtain ⟨rfl, loc, hfound, hloc⟩ := Entry.item_eq_ok hitem
  have hinstance := mem_instances_of_identified hidentified
  have hfind : r.find text = .ok [(loc, e.2.block)] := hfound
  rw [Resource.find, hidentified, ok_bind, bind_eq_ok] at hfind
  obtain ⟨o, ho, hfind⟩ := hfind
  rw [hloc, ← hname]
  exact ⟨r, hr, identifier, hidentified, rfl,
    stands_of_resourceOpening (hnames.types r hr) (hnames.instances r hr _ hinstance) ho htext hfind⟩

/-- Every item of a file stands where its inventory says: a variable or an output at the only line that is its opening
line, a resource at the only line that starts with its type and identifier. -/
theorem loadFile_places {ws : Workspace} {parse : Parser} {settings : Settings} {s : Source}
    (hsource : readSource ws parse file = .ok s) (htext : HasOnlyLineFeeds s.text)
    (hnames : s.declarations.HasIdentifiers) {inv : Inventory} (h : loadFile ws parse settings file = .ok inv) :
    (∀ e ∈ inv.inputs, Stands (· = openingLine "variable" e.1) (linesOf s.text) e.2.loc e.2.block) ∧
    (∀ e ∈ inv.outputs ++ inv.validationOutputs,
      Stands (· = openingLine "output" e.1) (linesOf s.text) e.2.loc e.2.block) ∧
    ∀ e ∈ inv.resources ++ inv.validationResources, ∃ r ∈ s.declarations.resources, ∃ identifier,
      r.identified = .ok (identifier, e.2.data) ∧
      e.1 = r.shownName settings.format.addResourceIdentifier identifier ∧
      Stands (fun line => (resourceLead r.type identifier).toList <+: line.toList) (linesOf s.text) e.2.loc
        e.2.block := by
  have hload : fileInventory settings s.file s.text s.declarations = .ok inv := by
    obtain ⟨text, hread, hrest⟩ := bind_eq_ok.mp hsource
    obtain ⟨v, hparse, hrest⟩ := bind_eq_ok.mp hrest
    obtain ⟨d, hdeclarations, hrest⟩ := bind_eq_ok.mp hrest
    cases hrest
    rwa [loadFile, hread, ok_bind, hparse, ok_bind, hdeclarations, ok_bind] at h
  simp only [fileInventory, bind_eq_ok, pure_eq_ok] at hload
  obtain ⟨_, -, all, hall, locals, -, inputs, hinputs, outputs, houtputs, validationOutputs, hvalidationOutputs,
    validationResources, hvalidationResources, resources, hresources, rfl⟩ := hload
  have houtput : ∀ q : Output → Bool, ∀ entry ∈ (s.declarations.outputs.filter q).map Output.entry,
      isIdentifier entry.name = true ∧ entry.find = (namedOpening "output" entry.name).find := by
    intro q
    refine List.forall_mem_map.mpr fun o ho => ?_
    exact ⟨hnames.outputs o (List.mem_of_mem_filter ho), rfl⟩
  have hinput : ∀ entry ∈ s.declarations.inputs.map Variable.entry,
      isIdentifier entry.name = true ∧ entry.find = (namedOpening "variable" entry.name).find :=
    List.forall_mem_map.mpr fun v hv => ⟨hnames.inputs v hv, rfl⟩
  refine ⟨stands_of_tableOf hinput htext hinputs,
    List.forall_mem_append.mpr ⟨stands_of_tableOf (houtput _) htext houtputs,
      stands_of_tableOf (houtput _) htext hvalidationOutputs⟩,
    List.forall_mem_append.mpr ⟨stands_of_resources hnames hall (List.filter_subset_self _) htext hresources,
      stands_of_resources hnames hall (List.filter_subset_self _) htext hvalidationResources⟩⟩

end Files

/-- A file with a variable, an output that only checks something, and two resources of one type. -/
def placesText : String :=
  "variable \"a-b\" \x7b\n  type = string\n\x7d\noutput \"validate_c\" \x7b\n\x7d\n" ++
  "resource \"t\" \"i\" \x7b # \n\x7d\nresource \"t\" \"j\" \x7b\n\x7d\n"

def placesWorkspace : Workspace where
  cwd := ["m"]
  files := ⟨[(["m"], .directory), (["m", "main.tf"], .file placesText false)]⟩

def placesParser : Parser := fun _ => .ok <| .map
  [("variable", .list [.map [("a-b", .map [("type", .str "string"), ("description", .str "")])]]),
   ("output", .list [.map [("validate_c", .map [("value", .str "1"), ("description", .str "")])]]),
   ("resource", .list [.map [("t", .map [("i", .map [])])], .map [("t", .map [("j", .map [])])]])]

def byType : Settings := { format := { addResourceIdentifier := false } }

/-- The items of such a file have their places, also where the second resource takes the place of the first. -/
theorem loadFile_places_main :
    ∃ s inv, readSource placesWorkspace placesParser (Path.ofText "main.tf") = .ok s ∧ s.text = placesText ∧
      loadFile placesWorkspace placesParser byType (Path.ofText "main.tf") = .ok inv ∧
      (∃ e ∈ inv.inputs, Stands (· = "variable \"a-b\" \x7b") (linesOf s.text) e.2.loc e.2.block) ∧
      (∃ e ∈ inv.validationOutputs, Stands (· = "output \"validate_c\" \x7b") (linesOf s.text) e.2.loc e.2.block) ∧
      inv.resources.length = 1 ∧
      ∀ e ∈ inv.resources, ∃ r ∈ s.declarations.resources, ∃ identifier,
        r.identified = .ok (identifier, e.2.data) ∧ e.1 = r.shownName false identifier ∧
        Stands (fun line => (resourceLead r.type identifier).toList <+: line.toList) (linesOf s.text) e.2.loc
          e.2.block := by
  obtain ⟨s, hs, hplaces, htext, hnames⟩ : ∃ s,
      readSource placesWorkspace placesParser (Path.ofText "main.tf") = .ok s ∧ s.text = placesText ∧
        HasOnlyLineFeeds s.text ∧ s.declarations.HasIdentifiers :=
    exists_of_toOption_any (by decide +kernel)
  obtain ⟨inv, hinv, hinputs, houtputs, hresources⟩ : ∃ inv,
      loadFile placesWorkspace placesParser byType (Path.ofText "main.tf") = .ok inv ∧
        inv.inputs.map (·.1) = ["a-b"] ∧ inv.validationOutputs.map (·.1) = ["validate_c"] ∧ inv.resources.length = 1 :=
    exists_of_toOption_any (by decide +kernel)
  have hvariable : openingLine "variable" "a-b" = "variable \"a-b\" \x7b" := by decide +kernel
  have houtput : openingLine "output" "validate_c" = "output \"validate_c\" \x7b" := by decide +kernel
  obtain ⟨input, hinput, hname⟩ := List.mem_map.mp (hinputs ▸ List.mem_singleton_self "a-b")
  obtain ⟨output, hmem, hname'⟩ := List.mem_map.mp (houtputs ▸ List.mem_singleton_self "validate_c")
  obtain ⟨hplace, hplace', hplace''⟩ := loadFile_places hs htext hnames hinv
  have hinput' := hplace input hinput
  have houtput' := hplace' output (List.mem_append_right _ hmem)
  rw [hname, hvariable] at hinput'
  rw [hname', houtput] at houtput'
  exact ⟨s, inv, hs, hplaces, hinv, ⟨input, hinput, hinput'⟩, ⟨output, hmem, houtput'⟩, hresources,
    fun e he => hplace'' e (List.mem_append_left _ he)⟩

end ModuleDocs.Hcl
