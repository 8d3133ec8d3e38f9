import Knotwork.Journal.Basic
import Knotwork.Proofs.Reading

/-! What happens to files when a path is read, written or made a folder. Main statements: the place
that a path leads to is a matter of the path alone; writing changes the file at that place and no
other; and setting up a journal takes nothing away that was there before. -/

namespace Knotwork

def Folder.stepTo (place : Path) (part : Text) : Path :=
  if part = ".." then back place else place.child part

def Path.place (path : Path) : Path := path.parts.foldl Folder.stepTo { root := path.root }

theorem Path.place_child (path : Path) {part : Text} (forward : part ≠ "..") :
    (path.child part).place = path.place.child part := by
  rw [place, child, List.foldl_append, List.foldl_cons, List.foldl_nil, Folder.stepTo,
    if_neg forward]
  rfl

theorem Path.name_child (path : Path) (part : Text) : (path.child part).name = part := by
  simp [name, child]

namespace Folder

variable {folder before after last : Folder} {path place : Path} {content : Text}

theorem walk_eq_ok {parts : List Text} {target : Path}
    (walked : folder.walk place parts = .ok target) : target = parts.foldl stepTo place := by
  induction parts generalizing place with
  | nil =>
      cases walked
      rfl
  | cons part rest ih =>
      rw [List.foldl_cons, stepTo]
      simp only [walk] at walked
      split at walked
      · cases walked
      · split at walked
        · cases walked
        · split at walked
          · rename_i up
            rw [if_pos up]
            exact ih walked
          · rename_i down
            split at walked
            · cases walked
            · rw [if_neg down]
              exact ih walked

theorem locate_eq_ok (located : folder.locate path = .ok place) : place = path.place := by
  unfold locate at located
  split at located
  · cases located
  · split at located
    · cases located
    · exact walk_eq_ok located

theorem isFile_iff : folder.isFile place = true ↔ ∃ content, folder.file? place = some content := by
  rw [isFile, Option.isSome_iff_exists]

theorem read_eq_ok (found : folder.read path = .ok content) :
    folder.file? path.place = some content := by
  rw [read, Except.bind_eq_ok] at found
  obtain ⟨place, located, found⟩ := found
  rw [← locate_eq_ok located]
  split at found
  · rename_i held
    cases found
    exact held
  · cases found

theorem leadsToFile_eq_true (leads : folder.leadsToFile path = .ok true) :
    ∃ content, folder.file? path.place = some content := by
  unfold leadsToFile leadsTo at leads
  split at leads
  · rename_i place located
    rw [← locate_eq_ok located, ← isFile_iff]
    exact Except.ok.inj leads
  · cases leads
  · cases leads

theorem lookup_setFile (place other : Path) (content : Text) (files : List (Path × Text)) :
    (setFile place content files).lookup other =
      if other = place then some content else files.lookup other := by
  induction files with
  | nil =>
      by_cases asked : other = place
      · simp [setFile, asked]
      · simp [setFile, List.lookup_cons, beq_eq_false_iff_ne.mpr asked, asked]
  | cons entry rest ih =>
      obtain ⟨first, old⟩ := entry
      simp only [setFile]
      by_cases present : first = place
      · subst present
        by_cases asked : other = first
        · simp [asked]
        · simp [List.lookup_cons, beq_eq_false_iff_ne.mpr asked, asked]
      · by_cases asked : other = first
        · subst asked
          simp [present]
        · simp [present, List.lookup_cons, beq_eq_false_iff_ne.mpr asked, ih]

theorem write_eq_ok (written : folder.write path content = .ok after) :
    folder.isFolder path.place = false ∧
      after = { folder with files := setFile path.place content folder.files } := by
  rw [write, Except.bind_eq_ok] at written
  obtain ⟨place, located, written⟩ := written
  rw [← locate_eq_ok located]
  split at written
  · cases written
  · rename_i free
    cases written
    exact ⟨Bool.eq_false_iff.mpr free, rfl⟩

theorem file?_write (written : folder.write path content = .ok after) (other : Path) :
    after.file? other = if other = path.place then some content else folder.file? other := by
  obtain ⟨_, rfl⟩ := write_eq_ok written
  exact lookup_setFile _ _ _ _

theorem append_eq_ok (appended : folder.append path content = .ok after) :
    folder.write path ((folder.file? path.place).getD [] ++ content) = .ok after := by
  rw [append, Except.bind_eq_ok] at appended
  obtain ⟨place, located, written⟩ := appended
  rwa [locate_eq_ok located] at written

theorem addFolder_eq_ok (added : folder.addFolder path = .ok after) :
    after.files = folder.files ∧ folder.folders ⊆ after.folders := by
  rw [addFolder, Except.bind_eq_ok] at added
  obtain ⟨place, _, added⟩ := added
  split at added
  · cases added
  · cases added
    exact ⟨rfl, List.subset_append_left _ _⟩

theorem orElse_eq_ok {error : FolderError} (kept : folder.orElse path error = .ok after) :
    after = folder := by
  rw [orElse, Except.bind_eq_ok] at kept
  obtain ⟨leads, _, kept⟩ := kept
  split at kept
  · cases kept
    rfl
  · cases kept

theorem ensureParts_eq_ok {root : Text} {parts : List Text}
    (made : folder.ensureParts root parts = .ok after) :
    after.files = folder.files ∧ folder.folders ⊆ after.folders := by
  induction parts generalizing after with
  | nil =>
      cases made
      exact ⟨rfl, List.Subset.refl _⟩
  | cons part rest ih =>
      simp only [ensureParts] at made
      split at made
      · rename_i added found
        cases made
        exact addFolder_eq_ok found
      · rw [Except.bind_eq_ok] at made
        obtain ⟨outer, ensured, made⟩ := made
        obtain ⟨files, folders⟩ := ih ensured
        split at made
        · rename_i done added
          cases made
          obtain ⟨laterFiles, laterFolders⟩ := addFolder_eq_ok added
          exact ⟨laterFiles.trans files, List.Subset.trans folders laterFolders⟩
        · rw [orElse_eq_ok made]
          exact ⟨files, folders⟩
      · rw [orElse_eq_ok made]
        exact ⟨rfl, List.Subset.refl _⟩

theorem ensure_eq_ok (made : folder.ensure path = .ok after) :
    after.files = folder.files ∧ folder.folders ⊆ after.folders :=
  ensureParts_eq_ok made

def SameExcept (places : List Path) (before after : Folder) : Prop :=
  ∀ place ∉ places, after.file? place = before.file? place

theorem SameExcept.refl (places : List Path) (folder : Folder) : SameExcept places folder folder :=
  fun _ _ => rfl

theorem SameExcept.trans {places : List Path} (first : SameExcept places before after)
    (second : SameExcept places after last) : SameExcept places before last :=
  fun place outside => (second place outside).trans (first place outside)

theorem SameExcept.mono {places more : List Path} (same : SameExcept places before after)
    (within : places ⊆ more) : SameExcept more before after :=
  fun place outside => same place fun member => outside (within member)

theorem sameExcept_of_files (places : List Path) (same : after.files = before.files) :
    SameExcept places before after := by
  intro place _
  rw [file?, file?, same]

theorem sameExcept_write (written : folder.write path content = .ok after) :
    SameExcept [path.place] folder after := by
  intro place outside
  rw [file?_write written, if_neg fun same => outside (List.mem_singleton.mpr same)]

structure Extends (before after : Folder) : Prop where
  files : ∀ place content, before.file? place = some content → after.file? place = some content
  folders : ∀ place, before.isFolder place = true → after.isFolder place = true
  apart : ∀ place, before.isFolder place = true → before.isFile place = false →
    after.isFile place = false

theorem Extends.refl (folder : Folder) : folder.Extends folder :=
  ⟨fun _ _ held => held, fun _ there => there, fun _ _ absent => absent⟩

theorem Extends.trans (first : before.Extends after) (second : after.Extends last) :
    before.Extends last := by
  refine ⟨?_, ?_, ?_⟩
  · intro place content held
    exact second.files place content (first.files place content held)
  · intro place there
    exact second.folders place (first.folders place there)
  · intro place there absent
    exact second.apart place (first.folders place there) (first.apart place there absent)

theorem isFolder_iff :
    folder.isFolder place = true ↔
      place.parts.all (· = "..".toList) = true ∨ place ∈ folder.folders ∨
        (∃ inner ∈ folder.files.map Prod.fst, liesIn place inner = true) ∨
        ∃ inner ∈ folder.folders, liesIn place inner = true := by
  simp only [isFolder, Bool.or_eq_true, List.contains_iff_mem, List.any_eq_true, List.mem_map,
    exists_exists_and_eq_and, or_assoc]

theorem isFolder_mono (files : before.files.map Prod.fst ⊆ after.files.map Prod.fst)
    (folders : before.folders ⊆ after.folders) (there : before.isFolder place = true) :
    after.isFolder place = true := by
  rw [isFolder_iff] at there ⊢
  rcases there with above | listed | ⟨inner, member, inside⟩ | ⟨inner, member, inside⟩
  · exact Or.inl above
  · exact Or.inr (Or.inl (folders listed))
  · exact Or.inr (Or.inr (Or.inl ⟨inner, files member, inside⟩))
  · exact Or.inr (Or.inr (Or.inr ⟨inner, folders member, inside⟩))

theorem extends_of_files (same : after.files = before.files)
    (folders : before.folders ⊆ after.folders) : before.Extends after := by
  have held (place : Path) : after.file? place = before.file? place := by
    rw [file?, file?, same]
  refine ⟨?_, ?_, ?_⟩
  · intro place content found
    rw [held, found]
  · intro place there
    exact isFolder_mono (by rw [same]; exact List.Subset.refl _) folders there
  · intro place _ absent
    rwa [isFile, held]

theorem keys_subset_setFile (place : Path) (content : Text) (files : List (Path × Text)) :
    files.map Prod.fst ⊆ (setFile place content files).map Prod.fst := by
  induction files with
  | nil => exact List.nil_subset _
  | cons entry rest ih =>
      simp only [setFile]
      split
      · exact List.Subset.refl _
      · exact List.cons_subset_cons _ ih

theorem extends_of_touch (touched : folder.append path [] = .ok after) : folder.Extends after := by
  have written := append_eq_ok touched
  rw [List.append_nil] at written
  have held := file?_write written
  obtain ⟨free, rfl⟩ := write_eq_ok written
  refine ⟨?_, ?_, ?_⟩
  · intro place content found
    rw [held]
    split
    · rename_i same
      rw [← same, found]
      rfl
    · exact found
  · intro place there
    exact isFolder_mono (keys_subset_setFile _ _ _) (List.Subset.refl _) there
  · intro place there absent
    rw [isFile, held, if_neg]
    · exact absent
    · rintro rfl
      rw [free] at there
      cases there

theorem Extends.walk_eq (extended : before.Extends after) {parts : List Text}
    {result : Except FolderError Path} (walked : before.walk place parts = result)
    (settled : result = .error .nameTooLong ∨ ∃ target, result = .ok target) :
    after.walk place parts = result := by
  induction parts generalizing place with
  | nil => exact walked
  | cons part rest ih =>
      simp only [walk] at walked ⊢
      split at walked
      · subst walked
        simp at settled
      · rename_i noFile
        split at walked
        · subst walked
          simp at settled
        · rename_i isThere
          have there : before.isFolder place = true := by simpa using isThere
          have absent := extended.apart place there (Bool.eq_false_iff.mpr noFile)
          rw [absent, extended.folders place there]
          simp only [Bool.false_eq_true, if_false, Bool.not_true]
          split
          · rename_i up
            rw [if_pos up] at walked
            exact ih walked
          · rename_i down
            rw [if_neg down] at walked
            split
            · rename_i long
              rwa [if_pos long] at walked
            · rename_i short
              rw [if_neg short] at walked
              exact ih walked

theorem Extends.locate_eq (extended : before.Extends after) {result : Except FolderError Path}
    (located : before.locate path = result)
    (settled : result = .error .nameTooLong ∨ ∃ target, result = .ok target) :
    after.locate path = result := by
  unfold locate at located ⊢
  split
  · rename_i null
    rwa [if_pos null] at located
  · rename_i plain
    rw [if_neg plain] at located
    split
    · rename_i long
      rwa [if_pos long] at located
    · rename_i short
      rw [if_neg short] at located
      exact extended.walk_eq located settled

theorem Extends.isThere_mono (extended : before.Extends after) (there : before.isThere place = true) :
    after.isThere place = true := by
  rw [isThere, Bool.or_eq_true] at there ⊢
  rcases there with file | directory
  · obtain ⟨content, held⟩ := isFile_iff.mp file
    exact Or.inl (isFile_iff.mpr ⟨content, extended.files place content held⟩)
  · exact Or.inr (extended.folders place directory)

theorem Extends.leadsSomewhere_eq_false (extended : before.Extends after)
    (nowhere : after.leadsSomewhere path = .ok false) :
    before.leadsSomewhere path = .ok false := by
  unfold leadsSomewhere leadsTo at nowhere ⊢
  split
  · rename_i place located
    rw [extended.locate_eq located (Or.inr ⟨place, rfl⟩)] at nowhere
    have absent : after.isThere place = false := Except.ok.inj nowhere
    refine congrArg Except.ok (Bool.eq_false_iff.mpr fun there => ?_)
    rw [extended.isThere_mono there] at absent
    cases absent
  · rename_i located
    rw [extended.locate_eq located (Or.inl rfl)] at nowhere
    cases nowhere
  · rfl

end Folder

namespace Journal

def places (journal : Journal) : List Path := (journal.file.map Path.place).toList

/-- A folder after files were opened in it at some places: it has lost nothing, and only those files
may be new, with nothing in them. -/
structure Laid (places : List Path) (before after : Folder) : Prop where
  extended : before.Extends after
  same : Folder.SameExcept places before after
  opened : ∀ place ∈ places, after.file? place = some ((before.file? place).getD [])

theorem laid_none (folder : Folder) : Laid [] folder folder :=
  ⟨.refl folder, .refl _ folder, by simp⟩

theorem configure_file {journal made : Journal} {folder laid : Folder} {verbosity : Int}
    {directory : Path} {error? : Option JournalError}
    (configured : journal.configure folder verbosity true (some directory) =
      (made, laid, error?)) :
    (error? = none ∧ made.file = some (directory.child fileName) ∧
        Laid [(directory.child fileName).place] folder laid) ∨
      ∃ error, error? = some (.folder error) ∧ laid.files = folder.files := by
  unfold configure at configured
  rw [if_pos rfl] at configured
  dsimp only at configured
  split at configured
  · rename_i error failed
    cases configured
    exact Or.inr ⟨error, rfl, rfl⟩
  · rename_i room ensured
    obtain ⟨files, folders⟩ := Folder.ensure_eq_ok ensured
    split at configured
    · rename_i error failed
      cases configured
      exact Or.inr ⟨error, rfl, files⟩
    · rename_i opened touched
      cases configured
      have written := Folder.append_eq_ok touched
      rw [List.append_nil, Folder.file?, files, ← Folder.file?] at written
      refine Or.inl ⟨rfl, rfl, ?_, ?_, ?_⟩
      · exact (Folder.extends_of_files files folders).trans (Folder.extends_of_touch touched)
      · exact (Folder.sameExcept_of_files _ files).trans (Folder.sameExcept_write written)
      · intro place member
        cases List.mem_singleton.mp member
        rw [Folder.file?_write written, if_pos rfl]

theorem sameExcept_record (journal : Journal) (folder : Folder) (entry : Entry) :
    Folder.SameExcept journal.places folder (journal.record folder entry) := by
  unfold record
  split
  · rename_i path kept
    split
    · split
      · rename_i written
        rw [places, kept]
        exact Folder.sameExcept_write (Folder.append_eq_ok written)
      · exact .refl _ _
    · exact .refl _ _
  · exact .refl _ _

end Journal

end Knotwork
