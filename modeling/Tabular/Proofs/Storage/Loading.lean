import Mathlib.Data.List.Nodup
import Tabular.Proofs.Catalog.Lookup
import Tabular.Proofs.Text.Split
import Tabular.Storage.Folder

/-! Loading a folder.

Files are added to the catalog one after the other, in the order of their names. The first that
cannot be read, or whose id an earlier one has taken, decides the failure, and nothing is loaded.
Otherwise there is one dataset for each file. The order in which the folder is listed is sorted
away and has no say.
-/

set_option autoImplicit false

namespace Tabular

def stem (name : String) : String := (splitExtension name).1

abbrev ReadFile := String × Except FileFault (List UInt8)

def ReadFile.dataset (file : ReadFile) : Except LoadFault Dataset := Dataset.ofFile file.1 file.2

namespace Dataset

variable {name id : String} {bytes : List UInt8} {dataset : Dataset}

theorem id_of_ofCsv (made : ofCsv id bytes = .ok dataset) : dataset.id = id := by
  unfold ofCsv at made
  split at made <;> cases made <;> rfl

theorem ofFile_eq_ok_iff {contents : Except FileFault (List UInt8)} :
    ofFile name contents = .ok dataset ↔
      ∃ bytes, contents = .ok bytes ∧ ofCsv (stem name) bytes = .ok dataset := by
  cases contents with
  | error fault => simp [ofFile]
  | ok bytes =>
    simp only [ofFile, Except.ok.injEq, exists_eq_left', stem]
    cases ofCsv (splitExtension name).1 bytes <;> simp

theorem id_of_ofFile {contents : Except FileFault (List UInt8)}
    (made : ofFile name contents = .ok dataset) : dataset.id = stem name := by
  obtain ⟨bytes, -, read⟩ := ofFile_eq_ok_iff.mp made
  exact id_of_ofCsv read

end Dataset

namespace Catalog

variable {catalog next : Catalog} {file : ReadFile} {files before after : List ReadFile}
  {fault : LoadFault}

/-! ## One file after the other -/

/-- Why a catalog does not take a file. -/
inductive Refuses (catalog : Catalog) (file : ReadFile) : LoadFault → Prop where
  | unreadable {fault : LoadFault} : file.dataset = .error fault → Refuses catalog file fault
  | taken {dataset : Dataset} : file.dataset = .ok dataset →
      (catalog.get? (stem file.1)).isSome = true →
      Refuses catalog file (.refused (.alreadyExists (stem file.1)))

theorem addFiles_of_refuses (refuses : catalog.Refuses file fault) (files : List ReadFile) :
    catalog.addFiles (file :: files) = .error fault := by
  obtain ⟨name, contents⟩ := file
  cases refuses with
  | unreadable failed =>
    rw [ReadFile.dataset] at failed
    simp only [addFiles, failed]
  | @taken dataset read held =>
    have id := Dataset.id_of_ofFile read
    have refused := register_eq_error_iff.mpr ⟨rfl, id ▸ held⟩
    rw [ReadFile.dataset] at read
    simp only [addFiles, read, refused, id]

theorem addFiles_of_free {dataset : Dataset} (read : file.dataset = .ok dataset)
    (free : catalog.get? (stem file.1) = none) (files : List ReadFile) :
    catalog.addFiles (file :: files) = (catalog.insert dataset).addFiles files := by
  obtain ⟨name, contents⟩ := file
  have id := Dataset.id_of_ofFile read
  have registered := register_eq_ok_iff.mpr ⟨id ▸ free, rfl⟩
  rw [ReadFile.dataset] at read
  simp only [addFiles, read, registered]

theorem refuses_or_free (catalog : Catalog) (file : ReadFile) :
    (∃ fault, catalog.Refuses file fault) ∨
      ∃ dataset, file.dataset = .ok dataset ∧ catalog.get? (stem file.1) = none := by
  cases read : file.dataset with
  | error fault => exact .inl ⟨fault, .unreadable read⟩
  | ok dataset =>
    cases held : catalog.get? (stem file.1) with
    | none => exact .inr ⟨dataset, rfl, rfl⟩
    | some old => exact .inl ⟨_, .taken read (held ▸ rfl)⟩

theorem addFiles_append (added : catalog.addFiles before = .ok next) (after : List ReadFile) :
    catalog.addFiles (before ++ after) = next.addFiles after := by
  induction before generalizing catalog with
  | nil =>
    cases added
    rfl
  | cons file files ih =>
    rcases catalog.refuses_or_free file with ⟨fault, refuses⟩ | ⟨dataset, read, free⟩
    · rw [addFiles_of_refuses refuses] at added
      cases added
    · rw [addFiles_of_free read free] at added
      rw [List.cons_append, addFiles_of_free read free, ih added]

/-- Files fail to load with the fault of the first of them that is refused. -/
theorem addFiles_eq_error_iff : catalog.addFiles files = .error fault ↔
    ∃ before file after reached, files = before ++ file :: after ∧
      catalog.addFiles before = .ok reached ∧ reached.Refuses file fault := by
  constructor
  · intro failed
    induction files generalizing catalog with
    | nil => cases failed
    | cons file files ih =>
      rcases catalog.refuses_or_free file with ⟨first, refuses⟩ | ⟨dataset, read, free⟩
      · rw [addFiles_of_refuses refuses] at failed
        cases failed
        exact ⟨[], file, files, catalog, rfl, rfl, refuses⟩
      · rw [addFiles_of_free read free] at failed
        obtain ⟨before, refused, after, reached, split, added, refuses⟩ := ih failed
        refine ⟨file :: before, refused, after, reached, by rw [split]; rfl, ?_, refuses⟩
        rw [addFiles_of_free read free, added]
  · rintro ⟨before, file, after, reached, rfl, added, refuses⟩
    rw [addFiles_append added, addFiles_of_refuses refuses]

theorem not_refuses_of_addFiles (added : catalog.addFiles (before ++ file :: after) = .ok next) :
    ∃ reached, catalog.addFiles before = .ok reached ∧ ∀ fault, ¬reached.Refuses file fault := by
  cases first : catalog.addFiles before with
  | ok reached =>
    refine ⟨reached, rfl, fun fault refuses => ?_⟩
    rw [addFiles_append first, addFiles_of_refuses refuses] at added
    cases added
  | error fault =>
    obtain ⟨front, refused, rest, reached, rfl, fine, refuses⟩ := addFiles_eq_error_iff.mp first
    have failed : catalog.addFiles ((front ++ refused :: rest) ++ file :: after) = .error fault :=
      addFiles_eq_error_iff.mpr
        ⟨front, refused, rest ++ file :: after, reached, by simp, fine, refuses⟩
    exact nomatch failed.symm.trans added

theorem get?_of_addFiles (added : catalog.addFiles files = .ok next) (id : String)
    (dataset : Dataset) : next.get? id = some dataset ↔
      catalog.get? id = some dataset ∨
        ∃ file ∈ files, stem file.1 = id ∧ file.dataset = .ok dataset := by
  induction files generalizing catalog with
  | nil =>
    cases added
    simp
  | cons file files ih =>
    rcases catalog.refuses_or_free file with ⟨fault, refuses⟩ | ⟨first, read, free⟩
    · rw [addFiles_of_refuses refuses] at added
      cases added
    · rw [addFiles_of_free read free] at added
      have named : first.id = stem file.1 := Dataset.id_of_ofFile read
      have stored : (catalog.insert first).get? id = some dataset ↔
          catalog.get? id = some dataset ∨ stem file.1 = id ∧ file.dataset = .ok dataset := by
        rw [get?_insert, Function.update_apply, named, read]
        by_cases same : id = stem file.1
        · simp [same, free]
        · simp [same, Ne.symm same]
      rw [ih added, stored, or_assoc]
      simp only [List.mem_cons, exists_eq_or_imp]

theorem exists_addFiles_iff : (∃ next, catalog.addFiles files = .ok next) ↔
    (∀ file ∈ files, ∃ dataset, file.dataset = .ok dataset) ∧
      (files.map fun file => stem file.1).Nodup ∧
      ∀ file ∈ files, catalog.get? (stem file.1) = none := by
  induction files generalizing catalog with
  | nil => simp [addFiles]
  | cons file files ih =>
    rw [List.map_cons, List.nodup_cons, List.forall_mem_cons, List.forall_mem_cons]
    rcases catalog.refuses_or_free file with ⟨fault, refuses⟩ | ⟨first, read, free⟩
    · rw [addFiles_of_refuses refuses]
      refine iff_of_false (by simp) ?_
      rintro ⟨⟨⟨dataset, read⟩, -⟩, -, free, -⟩
      cases refuses with
      | unreadable failed => exact nomatch failed.symm.trans read
      | taken _ held => exact nomatch (free ▸ held : (none : Option Dataset).isSome = true)
    · have named : first.id = stem file.1 := Dataset.id_of_ofFile read
      -- Once the first file is in, the ids of the others are free if they are new and were free.
      have kept : ∀ other ∈ files, (catalog.insert first).get? (stem other.1) = none ↔
          stem other.1 ≠ stem file.1 ∧ catalog.get? (stem other.1) = none := by
        intro other _
        rw [get?_insert, Function.update_apply, named]
        by_cases same : stem other.1 = stem file.1 <;> simp [same]
      rw [addFiles_of_free read free, ih, forall₂_congr kept]
      simp only [read, free, List.mem_map, Except.ok.injEq]
      grind

end Catalog

/-! ## A folder -/

section Folder

variable (files : Files Id) (folder : String) (entries : List (String × FileKind))

def IsDatasetFile (name : String) : Prop := (name, FileKind.file) ∈ entries ∧ isCsvName name = true

def readFile (name : String) : ReadFile := (name, files.contents (folder ++ "/" ++ name))

def registerFile (catalog : Catalog) (name : String) : Except LoadFault Catalog := do
  let dataset ← (loadFile files (folder ++ "/" ++ name)).run
  (catalog.register dataset).mapError .refused

/-- Why a file cannot be loaded with those whose names come before its own: it cannot be read, or
one of them has its id. -/
inductive Offends (name : String) : LoadFault → Prop where
  | unreadable {fault : LoadFault} : (readFile files folder name).dataset = .error fault →
      Offends name fault
  | repeated {dataset : Dataset} {earlier : String} :
      (readFile files folder name).dataset = .ok dataset → IsDatasetFile entries earlier →
      earlier < name → stem earlier = stem name →
      Offends name (.refused (.alreadyExists (stem name)))

variable {files folder entries}

theorem mem_csvNames {name : String} : name ∈ csvNames entries ↔ IsDatasetFile entries name := by
  rw [csvNames, (List.mergeSort_perm _ _).mem_iff]
  simp only [List.mem_map, List.mem_filter, Bool.and_eq_true, beq_iff_eq]
  constructor
  · rintro ⟨⟨_, _⟩, ⟨listed, rfl, named⟩, rfl⟩
    exact ⟨listed, named⟩
  · rintro ⟨listed, named⟩
    exact ⟨_, ⟨listed, rfl, named⟩, rfl⟩

theorem csvNames_sorted (entries : List (String × FileKind)) :
    (csvNames entries).Pairwise (· ≤ ·) := by
  refine (List.pairwise_mergeSort ?_ ?_ _).imp fun ordered => of_decide_eq_true ordered
  · intro first second third below above
    exact decide_eq_true (String.le_trans (of_decide_eq_true below) (of_decide_eq_true above))
  · intro first second
    simpa using String.le_total first second

theorem csvNames_increasing (distinct : (entries.map Prod.fst).Nodup) :
    (csvNames entries).Pairwise (· < ·) := by
  have different : (csvNames entries).Nodup :=
    (List.mergeSort_perm _ _).nodup_iff.mpr
      (distinct.sublist (List.filter_sublist.map Prod.fst))
  refine ((csvNames_sorted entries).and different).imp fun {first second} ordered => ?_
  exact String.not_le.mp fun above => ordered.2 (String.le_antisymm ordered.1 above)

theorem csvNames_of_perm {listing : List (String × FileKind)} (same : listing.Perm entries) :
    csvNames listing = csvNames entries := by
  have names := ((same.filter fun entry => entry.2 == .file && isCsvName entry.1).map Prod.fst)
  refine List.Perm.eq_of_pairwise (fun _ _ _ _ => String.le_antisymm) (csvNames_sorted listing)
    (csvNames_sorted entries) ?_
  exact (List.mergeSort_perm _ _).trans (names.trans (List.mergeSort_perm _ _).symm)

theorem readNamed_eq_map (names : List String) :
    (readNamed files folder names).run = names.map (readFile files folder) := by
  induction names with
  | nil => rfl
  | cons name names ih => exact congrArg (readFile files folder name :: ·) ih

theorem loadFolder_eq (listed : files.entries folder = .ok entries) :
    (loadFolder files folder).run =
      Catalog.empty.addFiles ((csvNames entries).map (readFile files folder)) := by
  rw [← readNamed_eq_map]
  simp only [loadFolder, listed]
  rfl

theorem fileName_inFolder {name : String} (single : '/' ∉ name.toList)
    (named : isCsvName name = true) : fileName (folder ++ "/" ++ name) = some name := by
  have other {dots : List Char} (plain : isCsvName (String.ofList dots) = false) :
      name.toList ≠ dots := by
    rintro rfl
    rw [String.ofList_toList, named] at plain
    cases plain
  have kept : (name.toList != [] && name.toList != ['.']) = true := by
    rw [Bool.and_eq_true, bne_iff_ne, bne_iff_ne]
    exact ⟨other (by decide), other (by decide)⟩
  have last : ((Text.splitAt '/' (folder ++ "/" ++ name).toList).filter
      fun part => part != [] && part != ['.']).getLast? = some name.toList := by
    have chars : (folder ++ "/" ++ name).toList = folder.toList ++ '/' :: name.toList := by simp
    have alone : [name.toList].filter (fun part => part != [] && part != ['.']) = [name.toList] :=
      List.filter_cons_of_pos kept
    rw [chars, Text.splitAt_eq_splitOn, List.splitOn_append_cons_self,
      List.splitOn_eq_singleton single, List.filter_append, alone, List.getLast?_concat]
  rw [fileName, last]
  split
  · rename_i up
    exact absurd (Option.some.inj up) (other (by decide))
  · rename_i nowhere
    cases nowhere
  · rename_i part found
    rw [← Option.some.inj found, String.ofList_toList]

theorem loadFile_inFolder {name : String} (single : '/' ∉ name.toList)
    (named : isCsvName name = true) :
    (loadFile files (folder ++ "/" ++ name)).run = (readFile files folder name).dataset := by
  rw [loadFile, fileName_inFolder single named]
  rfl

theorem addFiles_cons_readFile {name : String} (single : '/' ∉ name.toList)
    (named : isCsvName name = true) (names : List String) (catalog : Catalog) :
    catalog.addFiles ((name :: names).map (readFile files folder)) =
      (registerFile files folder catalog name).bind fun next =>
        next.addFiles (names.map (readFile files folder)) := by
  rw [List.map_cons, registerFile, loadFile_inFolder single named, readFile, Catalog.addFiles,
    ReadFile.dataset]
  cases Dataset.ofFile name (files.contents (folder ++ "/" ++ name)) with
  | error fault => rfl
  | ok dataset =>
    simp only [bind, Except.bind]
    cases catalog.register dataset <;> rfl

theorem addFiles_readFiles {names : List String}
    (plain : ∀ name ∈ names, '/' ∉ name.toList ∧ isCsvName name = true) (catalog : Catalog) :
    catalog.addFiles (names.map (readFile files folder)) =
      names.foldlM (registerFile files folder) catalog := by
  induction names generalizing catalog with
  | nil => rfl
  | cons name names ih =>
    obtain ⟨⟨single, named⟩, others⟩ := List.forall_mem_cons.mp plain
    rw [addFiles_cons_readFile single named, List.foldlM_cons, funext (ih others)]
    rfl

/-- A folder is loaded file by file, each of them by its path. No name in a folder has a slash. -/
theorem loadFolder_eq_loadFiles (listed : files.entries folder = .ok entries)
    (plain : ∀ name, IsDatasetFile entries name → '/' ∉ name.toList) :
    (loadFolder files folder).run =
      (csvNames entries).foldlM (registerFile files folder) Catalog.empty := by
  rw [loadFolder_eq listed]
  refine addFiles_readFiles (fun name member => ?_) _
  have present := mem_csvNames.mp member
  exact ⟨plain name present, present.2⟩

theorem get?_readFiles {names : List String} {catalog : Catalog}
    (added : Catalog.empty.addFiles (names.map (readFile files folder)) = .ok catalog) (id : String)
    (dataset : Dataset) : catalog.get? id = some dataset ↔
      ∃ name ∈ names, stem name = id ∧ (readFile files folder name).dataset = .ok dataset := by
  have none : Catalog.empty.get? id ≠ some dataset := nofun
  rw [Catalog.get?_of_addFiles added, or_iff_right none]
  constructor
  · rintro ⟨_, member, named, read⟩
    obtain ⟨name, among, rfl⟩ := List.mem_map.mp member
    exact ⟨name, among, named, read⟩
  · rintro ⟨name, among, named, read⟩
    exact ⟨_, List.mem_map_of_mem among, named, read⟩

theorem isSome_get?_readFiles {names : List String} {catalog : Catalog}
    (added : Catalog.empty.addFiles (names.map (readFile files folder)) = .ok catalog)
    (id : String) : (catalog.get? id).isSome = true ↔ ∃ name ∈ names, stem name = id := by
  obtain ⟨readable, -⟩ := Catalog.exists_addFiles_iff.mp ⟨catalog, added⟩
  rw [Option.isSome_iff_exists]
  simp only [get?_readFiles added]
  constructor
  · rintro ⟨_, name, among, named, -⟩
    exact ⟨name, among, named⟩
  · rintro ⟨name, among, named⟩
    obtain ⟨dataset, read⟩ := readable _ (List.mem_map_of_mem among)
    exact ⟨dataset, name, among, named, read⟩

section InOrder

variable {name : String} {before after : List String} {reached : Catalog} {fault : LoadFault}

theorem mem_before_iff (distinct : (entries.map Prod.fst).Nodup)
    (split : csvNames entries = before ++ name :: after) {other : String} :
    other ∈ before ↔ IsDatasetFile entries other ∧ other < name := by
  have increasing := csvNames_increasing distinct
  rw [split, List.pairwise_append] at increasing
  obtain ⟨-, behind, lesser⟩ := increasing
  rw [← mem_csvNames, split, List.mem_append, List.mem_cons]
  constructor
  · intro member
    exact ⟨.inl member, lesser other member name List.mem_cons_self⟩
  · rintro ⟨member | rfl | member, less⟩
    · exact member
    · exact absurd less (String.lt_irrefl _)
    · exact absurd ((List.pairwise_cons.mp behind).1 other member) (String.lt_asymm less)

theorem refuses_iff_offends (distinct : (entries.map Prod.fst).Nodup)
    (split : csvNames entries = before ++ name :: after)
    (added : Catalog.empty.addFiles (before.map (readFile files folder)) = .ok reached) :
    reached.Refuses (readFile files folder name) fault ↔
      Offends files folder entries name fault := by
  have held := isSome_get?_readFiles added (stem name)
  constructor
  · intro refuses
    cases refuses with
    | unreadable failed => exact .unreadable failed
    | taken read some =>
      obtain ⟨earlier, among, same⟩ := held.mp some
      obtain ⟨present, less⟩ := (mem_before_iff distinct split).mp among
      exact .repeated read present less same
  · intro offends
    cases offends with
    | unreadable failed => exact .unreadable failed
    | repeated read present less same =>
      exact .taken read (held.mpr ⟨_, (mem_before_iff distinct split).mpr ⟨present, less⟩, same⟩)

theorem exists_refused {names : List String}
    (failed : Catalog.empty.addFiles (names.map (readFile files folder)) = .error fault) :
    ∃ before name after reached, names = before ++ name :: after ∧
      Catalog.empty.addFiles (before.map (readFile files folder)) = .ok reached ∧
      reached.Refuses (readFile files folder name) fault := by
  obtain ⟨_, _, _, reached, split, added, refuses⟩ := Catalog.addFiles_eq_error_iff.mp failed
  obtain ⟨before, _, rfl, rfl, behind⟩ := List.map_eq_append_iff.mp split
  obtain ⟨name, after, rfl, rfl, rfl⟩ := List.map_eq_cons_iff.mp behind
  exact ⟨before, name, after, reached, rfl, added, refuses⟩

theorem addFiles_csvNames_eq_error_iff (distinct : (entries.map Prod.fst).Nodup) :
    Catalog.empty.addFiles ((csvNames entries).map (readFile files folder)) = .error fault ↔
      ∃ name, IsDatasetFile entries name ∧ Offends files folder entries name fault ∧
        ∀ other otherFault, IsDatasetFile entries other →
          Offends files folder entries other otherFault → name ≤ other := by
  constructor
  · intro failed
    obtain ⟨before, name, after, reached, split, added, refuses⟩ := exists_refused failed
    refine ⟨name, mem_csvNames.mp (split ▸ by simp),
      (refuses_iff_offends distinct split added).mp refuses, ?_⟩
    intro other otherFault present offends
    refine String.not_lt.mp fun less => ?_
    -- A file before the one that is refused has been taken.
    obtain ⟨front, rest, rfl⟩ :=
      List.append_of_mem ((mem_before_iff distinct split).mpr ⟨present, less⟩)
    rw [List.map_append, List.map_cons] at added
    obtain ⟨earlier, fine, taken⟩ := Catalog.not_refuses_of_addFiles added
    rw [List.append_assoc, List.cons_append] at split
    exact taken otherFault ((refuses_iff_offends distinct split fine).mpr offends)
  · rintro ⟨name, present, offends, least⟩
    obtain ⟨before, after, split⟩ := List.append_of_mem (mem_csvNames.mpr present)
    cases first : Catalog.empty.addFiles (before.map (readFile files folder)) with
    | ok reached =>
      refine Catalog.addFiles_eq_error_iff.mpr ⟨before.map (readFile files folder),
        readFile files folder name, after.map (readFile files folder), reached, ?_, first,
        (refuses_iff_offends distinct split first).mpr offends⟩
      rw [split, List.map_append, List.map_cons]
    | error earlierFault =>
      obtain ⟨front, earlier, rest, reached, rfl, added, refuses⟩ := exists_refused first
      have lesser := (mem_before_iff distinct split).mp (List.mem_append_right front
        (List.mem_cons_self (a := earlier) (l := rest)))
      rw [List.append_assoc, List.cons_append] at split
      have sooner := least earlier earlierFault lesser.1
        ((refuses_iff_offends distinct split added).mp refuses)
      exact absurd lesser.2 (String.not_lt.mpr sooner)

end InOrder

theorem dataset_readFile_iff {name : String} {dataset : Dataset} :
    (readFile files folder name).dataset = .ok dataset ↔
      ∃ bytes, files.contents (folder ++ "/" ++ name) = .ok bytes ∧
        Dataset.ofCsv (stem name) bytes = .ok dataset :=
  Dataset.ofFile_eq_ok_iff

theorem ids_of_addFiles {names : List String} {catalog : Catalog}
    (added : Catalog.empty.addFiles (names.map (readFile files folder)) = .ok catalog) :
    catalog.ids.Perm (names.map stem) := by
  obtain ⟨-, own, -⟩ := Catalog.exists_addFiles_iff.mp ⟨catalog, added⟩
  rw [List.map_map] at own
  have distinct : catalog.ids.Nodup := (Catalog.ids_increasing catalog).imp String.ne_of_lt
  refine (List.perm_ext_iff_of_nodup distinct own).mpr fun id => ?_
  exact Catalog.mem_ids.trans ((isSome_get?_readFiles added id).trans List.mem_map.symm)

end Folder

/-- A folder is loaded when each of its files can be read and has an id of its own. Then the
catalog holds the dataset of each file and nothing else. Otherwise the fault is that of the first
file that offends. Another listing of the same files changes nothing. -/
theorem loadFolder_allOrNothing (files : Files Id) (folder : String)
    (entries : List (String × FileKind)) (listed : files.entries folder = .ok entries)
    (distinct : (entries.map Prod.fst).Nodup) :
    let outcome := (loadFolder files folder).run
    ((∃ catalog, outcome = .ok catalog) ↔
      (∀ name, IsDatasetFile entries name →
        ∃ bytes dataset, files.contents (folder ++ "/" ++ name) = .ok bytes ∧
          Dataset.ofCsv (stem name) bytes = .ok dataset) ∧
      ∀ name other, IsDatasetFile entries name → IsDatasetFile entries other →
        stem name = stem other → name = other) ∧
    (∀ catalog, outcome = .ok catalog →
      catalog.ids.Perm ((csvNames entries).map stem) ∧
      ∀ id dataset, catalog.get? id = some dataset ↔
        ∃ name bytes, IsDatasetFile entries name ∧ stem name = id ∧
          files.contents (folder ++ "/" ++ name) = .ok bytes ∧
          Dataset.ofCsv id bytes = .ok dataset) ∧
    (∀ fault, outcome = .error fault ↔
      ∃ name, IsDatasetFile entries name ∧ Offends files folder entries name fault ∧
        ∀ other otherFault, IsDatasetFile entries other →
          Offends files folder entries other otherFault → name ≤ other) ∧
    ∀ (others : Files Id) (listing : List (String × FileKind)),
      others.contents = files.contents → others.entries folder = .ok listing →
      listing.Perm entries → (loadFolder others folder).run = outcome := by
  intro outcome
  have loaded :
      outcome = Catalog.empty.addFiles ((csvNames entries).map (readFile files folder)) :=
    loadFolder_eq listed
  have different : (csvNames entries).Nodup := (csvNames_increasing distinct).imp String.ne_of_lt
  refine ⟨?_, fun catalog done => ?_, fun fault => ?_, ?_⟩
  · have free : ∀ name, name ∈ csvNames entries →
        Catalog.empty.get? (stem (readFile files folder name).1) = none := fun _ _ => rfl
    have own :
        (((csvNames entries).map (readFile files folder)).map fun file => stem file.1).Nodup ↔
        ∀ name ∈ csvNames entries, ∀ other ∈ csvNames entries,
          stem name = stem other → name = other := by
      rw [List.map_map]
      exact List.nodup_map_iff_inj_on different
    rw [loaded, Catalog.exists_addFiles_iff, own, List.forall_mem_map, List.forall_mem_map,
      and_iff_left free]
    simp only [mem_csvNames, dataset_readFile_iff]
    grind
  · rw [loaded] at done
    refine ⟨ids_of_addFiles done, fun id dataset => ?_⟩
    simp only [get?_readFiles done, mem_csvNames, dataset_readFile_iff]
    constructor
    · rintro ⟨name, present, rfl, bytes, read, made⟩
      exact ⟨name, bytes, present, rfl, read, made⟩
    · rintro ⟨name, bytes, present, rfl, read, made⟩
      exact ⟨name, present, rfl, bytes, read, made⟩
  · rw [loaded]
    exact addFiles_csvNames_eq_error_iff distinct
  · intro others listing same relisted permuted
    have contents : readFile others folder = readFile files folder := by
      funext name
      rw [readFile, readFile, same]
    rw [loaded, loadFolder_eq relisted, csvNames_of_perm permuted, contents]

/-- Of two files with one id the later one offends, also where it is listed first. A folder is not
loaded, whatever its name. -/
theorem loadFolder_allOrNothing_repeated :
    let entries := [("a.csv", FileKind.file), ("b.csv", .folder), ("a.CSV", .file)]
    let files : Files Id := ⟨fun _ => some .file, fun _ => .ok [], fun _ => .ok entries⟩
    files.entries "data" = .ok entries ∧ (entries.map Prod.fst).Nodup ∧
    (loadFolder files "data").run = .error (.refused (.alreadyExists "a")) := by
  intro entries files
  have distinct : (entries.map Prod.fst).Nodup := by decide
  have id : stem "a.csv" = "a" := by decide
  have upper : IsDatasetFile entries "a.CSV" := ⟨by decide, by decide⟩
  have either : ∀ name, IsDatasetFile entries name → name = "a.csv" ∨ name = "a.CSV" := by
    rintro name ⟨listed, -⟩
    simpa [entries] using listed
  obtain ⟨-, -, failed, -⟩ := loadFolder_allOrNothing files "data" entries rfl distinct
  refine ⟨rfl, distinct, (failed _).mpr ⟨"a.csv", ⟨by decide, by decide⟩, ?_, ?_⟩⟩
  · exact id ▸ .repeated rfl upper (by decide) (by decide)
  · intro other fault present offends
    rcases either other present with rfl | rfl
    · exact String.le_refl _
    · cases offends with
      | unreadable unread => cases unread
      | @repeated _ earlier _ among less _ =>
        rcases either earlier among with rfl | rfl
        · exact absurd less (by decide)
        · exact absurd less (String.lt_irrefl _)

end Tabular
