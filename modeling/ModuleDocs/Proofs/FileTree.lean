import ModuleDocs.Workspace

/-! # Reading what was written

Setting the entry at a location changes that entry and no other (`at?_put`). The names of a location without
double points are followed straight down, so that a file is read where it was written (`read_write`), and the
location of a path has no double points (`notMem_resolve`). -/
set_option autoImplicit false

namespace ModuleDocs

namespace FileTree

/-! ## Single entries -/

theorem lookup_replace (entries : List (Location × Entry)) (loc other : Location) (entry : Entry) :
    (entries.map fun e => if e.1 = loc then (loc, entry) else e).lookup other =
      if other = loc then (if entries.any (·.1 = loc) then some entry else none) else entries.lookup other := by
  induction entries with
  | nil => simp
  | cons e entries ih =>
    obtain ⟨key, old⟩ := e
    rw [List.map_cons, List.any_cons]
    by_cases hkey : key = loc
    · subst hkey
      by_cases ho : other = key
      · subst ho
        simp
      · have hb : (other == key) = false := by simpa using ho
        simp only [if_true, List.lookup_cons, hb, if_neg ho] at ih ⊢
        exact ih
    · by_cases hok : other = key
      · subst hok
        simp [hkey]
      · have hb : (other == key) = false := by simpa using hok
        simp only [if_neg hkey, List.lookup_cons, hb, ih, decide_eq_false hkey, Bool.false_or]

theorem lookup_eq_none_of_any {entries : List (Location × Entry)} {loc : Location}
    (h : ¬ entries.any (·.1 = loc)) : entries.lookup loc = none := by
  rw [List.lookup_eq_none_iff]
  intro e he
  have hne : ¬ e.1 = loc := fun hl => h (List.any_eq_true.mpr ⟨e, he, by simpa using hl⟩)
  exact bne_iff_ne.mpr fun hl => hne hl.symm

theorem at?_put (tree : FileTree) {loc : Location} (hloc : loc ≠ []) (entry : Entry) (other : Location) :
    (tree.put loc entry).at? other = if other = loc then some entry else tree.at? other := by
  unfold at? put
  by_cases hother : other = []
  · subst hother
    rw [if_neg hloc.symm]
    rfl
  · have hempty : ¬ other.isEmpty = true := fun h => hother (List.isEmpty_iff.mp h)
    rw [if_neg hempty, if_neg hempty]
    by_cases hany : tree.entries.any (·.1 = loc)
    · simp only [hany, if_true, lookup_replace]
    · simp only [hany, Bool.false_eq_true, if_false, List.lookup_append]
      by_cases ho : other = loc
      · subst ho
        rw [lookup_eq_none_of_any hany]
        simp
      · have hb : (other == loc) = false := by simpa using ho
        simp [List.lookup_cons, hb, ho]

/-! ## Files at locations -/

theorem walk_cons_eq_ok {tree : FileTree} {name : String} (hname : name ≠ "..") {names : List String}
    {start : Location} {result : Location × Entry} :
    tree.walk start (name :: names) = .ok result ↔
      tree.at? start = some .directory ∧ tree.walk (start ++ [name]) names = .ok result := by
  rw [walk, if_neg hname]
  cases tree.at? start with
  | none => simp
  | some entry => cases entry <;> simp

/-- Names without double points lead straight down: to the file at the location they make up, also after that
file has been set anew. -/
theorem walk_put {tree : FileTree} {names : List String} (hnames : ".." ∉ names) {start found : Location}
    {text : String} {executable : Bool} (h : tree.walk start names = .ok (found, .file text executable)) :
    tree.at? (start ++ names) = some (.file text executable) ∧
      ∀ (text' : String) (executable' : Bool),
        (tree.put (start ++ names) (.file text' executable')).walk start names =
          .ok (start ++ names, .file text' executable') := by
  induction names generalizing start with
  | nil =>
    rw [walk] at h
    cases hat : tree.at? start with
    | none =>
      rw [hat] at h
      cases h
    | some entry =>
      rw [hat] at h
      obtain ⟨-, rfl⟩ := Prod.mk.inj (Except.ok.inj h)
      have hne : start ≠ [] := by
        rintro rfl
        cases hat
      refine ⟨by rw [List.append_nil, hat], fun text' executable' => ?_⟩
      rw [List.append_nil, walk, at?_put tree hne, if_pos rfl]
  | cons name names ih =>
    rw [List.mem_cons, not_or] at hnames
    have hname : name ≠ ".." := Ne.symm hnames.1
    have hassoc : start ++ name :: names = start ++ [name] ++ names := by simp
    obtain ⟨hat, h⟩ := (walk_cons_eq_ok hname).mp h
    obtain ⟨hfile, hput⟩ := ih hnames.2 h
    have hne : start ++ name :: names ≠ [] := by simp
    have hstart : ¬ start = start ++ name :: names := by
      intro e
      have hlen := congrArg List.length e
      rw [List.length_append, List.length_cons] at hlen
      omega
    refine ⟨by rw [hassoc, hfile], fun text' executable' => (walk_cons_eq_ok hname).mpr ⟨?_, ?_⟩⟩
    · rw [at?_put tree hne, if_neg hstart, hat]
    · rw [hassoc]
      exact hput text' executable'

/-- What reading at a location gives: the text of the file there. -/
theorem read_eq_ok {tree : FileTree} {cwd loc : Location} {text : String}
    (h : tree.read cwd (Path.ofLocation loc) = .ok text) :
    ∃ found stored executable, tree.walk [] loc = .ok (found, .file stored executable) ∧
      text = String.ofList (Text.unifyNewlines stored.toList) := by
  have hfind : tree.find cwd (Path.ofLocation loc) = tree.walk [] loc := rfl
  unfold read at h
  rw [hfind] at h
  cases hwalk : tree.walk [] loc with
  | error e =>
    rw [hwalk] at h
    cases h
  | ok found =>
    obtain ⟨place, entry⟩ := found
    rw [hwalk] at h
    cases entry with
    | directory => cases h
    | file stored executable =>
      cases h
      exact ⟨place, stored, executable, rfl, rfl⟩

@[simp] theorem store_default (tree : FileTree) (loc : Location) (executable : Bool) (text : String) :
    tree.store loc executable text {} = .ok (tree.put loc (.file text executable)) := rfl

theorem write_of_file {tree : FileTree} {loc : Location} {old : String} {executable : Bool}
    (h : tree.at? loc = some (.file old executable)) (text : String) (disk : Disk) :
    tree.write loc text disk = tree.store loc executable text disk := by
  rw [write, h]

/-- A file that can be read can be written, and is then read as it was written. -/
theorem read_write {tree : FileTree} {cwd loc : Location} (hloc : ".." ∉ loc) {old : String}
    (h : tree.read cwd (Path.ofLocation loc) = .ok old) {text : String}
    (htext : Text.unifyNewlines text.toList = text.toList) :
    ∃ tree', tree.write loc text = .ok tree' ∧ tree'.read cwd (Path.ofLocation loc) = .ok text := by
  obtain ⟨found, stored, executable, hwalk, -⟩ := read_eq_ok h
  obtain ⟨hfile, hput⟩ := walk_put hloc hwalk
  rw [List.nil_append] at hfile hput
  refine ⟨tree.put loc (.file text executable), write_of_file hfile text {}, ?_⟩
  have hfind : (tree.put loc (.file text executable)).find cwd (Path.ofLocation loc) =
      .ok (loc, .file text executable) := hput text executable
  unfold read
  rw [hfind]
  change Except.ok (String.ofList (Text.unifyNewlines text.toList)) = _
  rw [htext, String.ofList_toList]

theorem at?_of_read {tree : FileTree} {cwd loc : Location} (hloc : ".." ∉ loc) {text : String}
    (h : tree.read cwd (Path.ofLocation loc) = .ok text) : ∃ entry, tree.at? loc = some entry := by
  obtain ⟨found, stored, executable, hwalk, -⟩ := read_eq_ok h
  exact ⟨.file stored executable, (walk_put hloc hwalk).1⟩

/-- What is read is the text that is stored, with line ends of one kind. -/
theorem file_of_read {tree : FileTree} {cwd loc : Location} (hloc : ".." ∉ loc) {text : String}
    (h : tree.read cwd (Path.ofLocation loc) = .ok text) :
    ∃ stored executable, tree.at? loc = some (.file stored executable) ∧
      text = String.ofList (Text.unifyNewlines stored.toList) := by
  obtain ⟨found, stored, executable, hwalk, htext⟩ := read_eq_ok h
  exact ⟨stored, executable, (walk_put hloc hwalk).1, htext⟩

end FileTree

/-! ## Locations of paths -/

theorem Path.follow_append (loc : Location) (names more : List String) :
    Path.follow loc (names ++ more) = Path.follow (Path.follow loc names) more := by
  induction names generalizing loc with
  | nil => rfl
  | cons name names ih => rw [List.cons_append, Path.follow, Path.follow, ih]

theorem Path.notMem_follow {loc : Location} (h : ".." ∉ loc) (names : List String) :
    ".." ∉ Path.follow loc names := by
  induction names generalizing loc with
  | nil => exact h
  | cons name names ih =>
    rw [Path.follow]
    by_cases hname : name = ".."
    · rw [if_pos hname]
      exact ih fun hm => h (List.dropLast_subset loc hm)
    · rw [if_neg hname]
      apply ih
      rw [List.mem_append, List.mem_singleton]
      rintro (hm | hm)
      · exact h hm
      · exact hname hm.symm

/-- Where the current directory has no double points, no location has. -/
theorem Path.notMem_resolve {cwd : Location} (h : ".." ∉ cwd) (p : Path) : ".." ∉ p.resolve cwd := by
  rw [Path.resolve]
  by_cases ha : p.isAbsolute
  · rw [if_pos ha]
    exact notMem_follow (List.not_mem_nil) _
  · rw [if_neg ha]
    exact notMem_follow h _

end ModuleDocs
