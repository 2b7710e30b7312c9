import BuildTree.Disk.Basic
import BuildTree.Proofs.Text.Fields

/-!
# Places on a disk that changes

Where a path leads depends on the directories on its way and on what is at its end. So a file that is new, or that has
other content, is reached by the paths that led to its place before, and every other path leads where it led.
-/

namespace BuildTree

namespace Text

/-- The last piece is empty only if the separator is the last character, or there is no character. -/
theorem getLast?_fields {sep : Char} {cs : List Char} (h : (fields sep cs).getLast? = some []) :
    cs = [] ∨ cs.getLast? = some sep := by
  induction cs with
  | nil => exact .inl rfl
  | cons c cs ih =>
    obtain ⟨field, more, hfields⟩ := List.exists_cons_of_ne_nil (fields_ne_nil sep cs)
    have hlast : (fields sep cs).getLast? = some [] → c = sep ∨ more ≠ [] → (c :: cs).getLast? = some sep := by
      intro hcs hmore
      rcases ih hcs with rfl | hsep
      · cases hfields
        rw [hmore.resolve_right (absurd rfl)]
        rfl
      · rw [List.getLast?_cons, hsep]
        rfl
    right
    rw [fields, hfields] at h
    split at h
    · next hc => exact hlast (by rw [hfields]; rwa [List.getLast?_cons_cons] at h) (.inl hc)
    · cases more with
      | nil => cases h
      | cons other more => exact hlast (by rw [hfields]; rwa [List.getLast?_cons_cons] at h ⊢) (.inr (by simp))

theorem getLast?_fields_of_sep {sep : Char} {cs : List Char} (h : cs.getLast? = some sep) :
    (fields sep cs).getLast? = some [] := by
  obtain ⟨front, rfl⟩ := List.getLast?_eq_some_iff.mp h
  rw [fields_append_sep]
  simp [fields]

end Text

namespace Disk
open Text (Bytes)

section Entries
variable {place : List String} {entries : List (List String × DiskEntry)}

theorem lookup_cons (key : List String) (old : DiskEntry) (rest : List (List String × DiskEntry))
    (other : List String) :
    ((key, old) :: rest).lookup other = if other = key then some old else rest.lookup other := by
  by_cases h : other = key
  · simp [h]
  · simp [List.lookup_cons, h, beq_eq_false_iff_ne.mpr h]

theorem lookup_insertEntry (place : List String) (entry : DiskEntry) (entries : List (List String × DiskEntry))
    (other : List String) :
    (insertEntry place entry entries).lookup other = if other = place then some entry else entries.lookup other := by
  induction entries with
  | nil => rw [insertEntry, lookup_cons]
  | cons first rest ih =>
    obtain ⟨key, old⟩ := first
    rw [insertEntry]
    by_cases hkey : key = place
    · rw [if_pos hkey, lookup_cons, lookup_cons, hkey]
      split <;> rfl
    · rw [if_neg hkey, lookup_cons, lookup_cons, ih]
      by_cases hother : other = place
      · rw [if_neg (hother ▸ Ne.symm hkey)]
        simp [hother]
      · simp only [hother, if_false]

theorem map_fst_insertEntry (h : entries.lookup place ≠ none) (entry : DiskEntry) :
    (insertEntry place entry entries).map Prod.fst = entries.map Prod.fst := by
  induction entries with
  | nil => exact absurd rfl h
  | cons first rest ih =>
    obtain ⟨key, old⟩ := first
    rw [insertEntry]
    by_cases hkey : key = place
    · rw [if_pos hkey, hkey]
      rfl
    · rw [lookup_cons, if_neg (Ne.symm hkey)] at h
      rw [if_neg hkey, List.map_cons, List.map_cons, ih h]

theorem insertEntry_insertEntry (place : List String) (first second : DiskEntry)
    (entries : List (List String × DiskEntry)) :
    insertEntry place second (insertEntry place first entries) = insertEntry place second entries := by
  induction entries with
  | nil => simp [insertEntry]
  | cons entry rest ih =>
    obtain ⟨key, old⟩ := entry
    by_cases hkey : key = place
    · simp [insertEntry, hkey]
    · simp [insertEntry, hkey, ih]

theorem filter_insertEntry (h : entries.lookup place = none) (entry : DiskEntry) :
    (insertEntry place entry entries).filter (·.1 ≠ place) = entries := by
  induction entries with
  | nil => simp [insertEntry]
  | cons first rest ih =>
    obtain ⟨key, old⟩ := first
    have hkey : key ≠ place := fun hkey => by
      rw [lookup_cons, if_pos hkey.symm] at h
      cases h
    rw [lookup_cons, if_neg (Ne.symm hkey)] at h
    rw [insertEntry, if_neg hkey, List.filter_cons_of_pos (by simpa using hkey), ih h]

variable {disk : Disk}

theorem entry?_put (h : disk.entry? place ≠ some .directory) (entry : DiskEntry) (other : List String) :
    Disk.entry? (disk.put place entry) other = if other = place then some entry else disk.entry? other := by
  have hplace : place.isPrefixOf disk.here = false := by
    unfold entry? at h
    split at h
    · exact absurd rfl h
    · next hprefix => exact Bool.eq_false_iff.mpr hprefix
  show (if other.isPrefixOf disk.here then some .directory else (insertEntry place entry disk.entries).lookup other) = _
  rw [lookup_insertEntry, entry?]
  split
  · next hother =>
    rw [if_neg]
    rintro rfl
    exact Bool.false_ne_true (hplace.symm.trans hother)
  · rfl

theorem lookup_of_entry?_eq_none (h : disk.entry? place = none) : disk.entries.lookup place = none := by
  unfold entry? at h
  split at h
  · cases h
  · exact h

/-- What was put where nothing was, is removed without a trace. -/
theorem erase_put (h : disk.entry? place = none) (entry : DiskEntry) : (disk.put place entry).erase place = disk := by
  rw [erase, put, filter_insertEntry (lookup_of_entry?_eq_none h)]

theorem put_put (disk : Disk) (place : List String) (first second : DiskEntry) :
    (disk.put place first).put place second = disk.put place second := by
  rw [put, put, put, insertEntry_insertEntry]

end Entries

section Follow
variable {disk disk' : Disk} {start place : List String} {part : String} {parts : List String} {entry : DiskEntry}

theorem follow_nil_of_some (h : disk.entry? start = some entry) : disk.follow start [] = .found start entry := by
  rw [follow, h]

theorem follow_nil_of_none (h : disk.entry? start = none) : disk.follow start [] = .free start := by
  rw [follow, h]

/-- Where a component leads from a directory, if it is not too long for a name. -/
def next? (start : List String) (part : String) : Option (List String) :=
  if part = "" ∨ part = "." then some start
  else if part = ".." then some start.dropLast
  else if isTooLong part then none
  else some (start ++ [part])

theorem follow_cons_of_directory (h : disk.entry? start = some .directory) (part : String) (rest : List String) :
    disk.follow start (part :: rest) = match next? start part with
      | some start => disk.follow start rest
      | none => .tooLong := by
  rw [follow, h, next?]
  dsimp only
  split
  · rfl
  · split
    · rfl
    · split <;> rfl

theorem follow_cons_of_file {content : Bytes} (h : disk.entry? start = some (.file content)) (part : String)
    (rest : List String) : disk.follow start (part :: rest) = .throughFile := by
  rw [follow, h]

theorem follow_cons_of_none (h : disk.entry? start = none) (part : String) (rest : List String) :
    disk.follow start (part :: rest) = if isSlash (part :: rest) then .free start else .nowhere := by
  rw [follow, h]

theorem exists_of_follow_cons (h : disk.follow start (part :: parts) = .found place entry) :
    disk.entry? start = some .directory ∧ ∃ next, next? start part = some next ∧
      disk.follow next parts = .found place entry := by
  rcases hstart : disk.entry? start with _ | (_ | content)
  · rw [follow_cons_of_none hstart] at h
    split at h <;> cases h
  · rw [follow_cons_of_directory hstart] at h
    refine ⟨rfl, ?_⟩
    split at h
    · next next hnext => exact ⟨next, hnext, h⟩
    · cases h
  · rw [follow_cons_of_file hstart] at h
    cases h

theorem exists_of_follow_cons_free (hlast : (part :: parts).getLast? ≠ some "")
    (h : disk.follow start (part :: parts) = .free place) :
    disk.entry? start = some .directory ∧ ∃ next, next? start part = some next ∧
      disk.follow next parts = .free place := by
  rcases hstart : disk.entry? start with _ | (_ | content)
  · rw [follow_cons_of_none hstart] at h
    split at h
    · next hslash =>
      refine absurd ?_ hlast
      rw [List.getLast?_eq_some_getLast (List.cons_ne_nil part parts)]
      exact congrArg some (of_decide_eq_true (List.all_eq_true.mp hslash _ (List.getLast_mem _)))
    · cases h
  · rw [follow_cons_of_directory hstart] at h
    refine ⟨rfl, ?_⟩
    split at h
    · next next hnext => exact ⟨next, hnext, h⟩
    · cases h
  · rw [follow_cons_of_file hstart] at h
    cases h

theorem entry?_of_follow (h : disk.follow start parts = .found place entry) : disk.entry? place = some entry := by
  induction parts generalizing start with
  | nil =>
    cases hstart : disk.entry? start with
    | none =>
      rw [follow_nil_of_none hstart] at h
      cases h
    | some found =>
      rw [follow_nil_of_some hstart] at h
      cases h
      exact hstart
  | cons part parts ih =>
    obtain ⟨_, next, _, h⟩ := exists_of_follow_cons h
    exact ih h

/-- A path to a file does not end with a slash. -/
theorem getLast?_of_follow {content : Bytes} (h : disk.follow start parts = .found place (.file content)) :
    parts.getLast? ≠ some "" := by
  induction parts generalizing start with
  | nil => simp
  | cons part parts ih =>
    obtain ⟨hstart, next, hnext, h⟩ := exists_of_follow_cons h
    cases parts with
    | cons other parts =>
      rw [List.getLast?_cons_cons]
      exact ih h
    | nil =>
      intro hpart
      cases hpart
      cases hnext
      rw [follow_nil_of_some hstart] at h
      cases h

theorem follow_free (hlast : parts.getLast? ≠ some "") (h : disk.follow start parts = .free place) :
    disk.entry? place = none ∧ ∀ entry, (disk.put place entry).follow start parts = .found place entry := by
  induction parts generalizing start with
  | nil =>
    cases hstart : disk.entry? start with
    | some found =>
      rw [follow_nil_of_some hstart] at h
      cases h
    | none =>
      rw [follow_nil_of_none hstart] at h
      cases h
      refine ⟨hstart, fun entry => follow_nil_of_some ?_⟩
      rw [entry?_put (by simp [hstart]), if_pos rfl]
  | cons part parts ih =>
    obtain ⟨hstart, next, hnext, h⟩ := exists_of_follow_cons_free hlast h
    have hrest : parts.getLast? ≠ some "" := fun hrest => by
      cases parts with
      | nil => cases hrest
      | cons other parts => exact hlast (by rwa [List.getLast?_cons_cons])
    obtain ⟨hnone, hput⟩ := ih hrest h
    refine ⟨hnone, fun entry => ?_⟩
    have hdirectory : Disk.entry? (disk.put place entry) start = some .directory := by
      rw [entry?_put (by simp [hnone]), if_neg, hstart]
      rintro rfl
      exact nomatch hnone.symm.trans hstart
    rw [follow_cons_of_directory hdirectory, hnext]
    exact hput entry

/-- Where a path leads once a file has other content. -/
def Reached.refilled (place : List String) (content : Bytes) : Reached → Reached
  | .found other entry => .found other (if other = place then .file content else entry)
  | reached => reached

theorem follow_refilled {old content : Bytes} (hold : disk.entry? place = some (.file old))
    (hnew : ∀ other, disk'.entry? other = if other = place then some (.file content) else disk.entry? other)
    (start : List String) (parts : List String) :
    disk'.follow start parts = (disk.follow start parts).refilled place content := by
  have hother : ∀ {start}, disk.entry? start ≠ some (.file old) → disk'.entry? start = disk.entry? start := by
    intro start hstart
    rw [hnew, if_neg]
    rintro rfl
    exact hstart hold
  induction parts generalizing start with
  | nil =>
    cases hstart : disk.entry? start with
    | none =>
      have hstart' := @hother start (by simp [hstart])
      rw [follow_nil_of_none hstart, follow_nil_of_none (hstart'.trans hstart), Reached.refilled]
      simp
    | some found =>
      have hstart' : disk'.entry? start = some (if start = place then .file content else found) := by
        rw [hnew, hstart]
        split <;> rfl
      rw [follow_nil_of_some hstart, follow_nil_of_some hstart', Reached.refilled]
  | cons part parts ih =>
    rcases hstart : disk.entry? start with _ | (_ | found)
    · have hstart' := @hother start (by simp [hstart])
      rw [follow_cons_of_none hstart, follow_cons_of_none (hstart'.trans hstart)]
      split <;> rfl
    · have hstart' := @hother start (by simp [hstart])
      rw [follow_cons_of_directory hstart, follow_cons_of_directory (hstart'.trans hstart)]
      split
      · exact ih _
      · rfl
    · have hstart' : ∃ found', disk'.entry? start = some (.file found') := by
        rw [hnew, hstart]
        split <;> exact ⟨_, rfl⟩
      obtain ⟨found', hstart'⟩ := hstart'
      rw [follow_cons_of_file hstart, follow_cons_of_file hstart']
      rfl

end Follow

section Locate
variable {disk disk' : Disk} {path : String} {place : List String}

/-- A path leads to no place whatever is on a disk, or its components are followed. -/
theorem locate_cases (path : String) :
    (∃ reached : Reached, (∀ place entry, reached ≠ .found place entry) ∧ (∀ place, reached ≠ .free place) ∧
      ∀ disk : Disk, disk.locate path = reached) ∨
    path ≠ "" ∧ ∀ disk : Disk, disk.locate path =
      disk.follow (if path.toList.head? = some '/' then [] else disk.here) (Text.splitFields '/' path) := by
  by_cases hnull : path.toList.contains '\x00' = true
  · exact .inl ⟨.unspelled, by simp, by simp, fun disk => by rw [locate, reach, if_pos hnull]⟩
  by_cases hlong : pathLimit < path.utf8ByteSize
  · exact .inl ⟨.tooLong, by simp, by simp, fun disk => by rw [locate, reach, if_neg hnull, if_pos hlong]⟩
  by_cases hempty : path = ""
  · exact .inl ⟨.nowhere, by simp, by simp, fun disk => by
      rw [locate, reach, if_neg hnull, if_neg hlong, if_pos hempty]⟩
  exact .inr ⟨hempty, fun disk => by rw [locate, reach, if_neg hnull, if_neg hlong, if_neg hempty]⟩

theorem meansDirectory_iff : meansDirectory path = true ↔ path.toList.getLast? = some '/' := by
  rw [meansDirectory, beq_iff_eq]

theorem getLast?_splitFields (hempty : path ≠ "") :
    (Text.splitFields '/' path).getLast? = some "" ↔ meansDirectory path = true := by
  rw [Text.splitFields, List.getLast?_map, Option.map_eq_some_iff, meansDirectory_iff]
  constructor
  · rintro ⟨cs, hcs, hnil⟩
    obtain rfl : cs = [] := by simpa using hnil
    refine (Text.getLast?_fields hcs).resolve_left fun htext => hempty ?_
    rw [← String.ofList_toList (s := path), htext]
  · exact fun h => ⟨[], Text.getLast?_fields_of_sep h, rfl⟩

theorem entry?_of_locate {entry : DiskEntry} (h : disk.locate path = .found place entry) :
    disk.entry? place = some entry := by
  rcases locate_cases path with ⟨reached, hfound, _, hlocate⟩ | ⟨_, hlocate⟩
  · exact absurd ((hlocate disk).symm.trans h) (hfound _ _)
  · exact entry?_of_follow ((hlocate disk).symm.trans h)

theorem not_meansDirectory_of_locate {content : Bytes} (h : disk.locate path = .found place (.file content)) :
    meansDirectory path = false := by
  rcases locate_cases path with ⟨reached, hfound, _, hlocate⟩ | ⟨hempty, hlocate⟩
  · exact absurd ((hlocate disk).symm.trans h) (hfound _ _)
  · refine Bool.eq_false_iff.mpr fun hslash => ?_
    exact getLast?_of_follow ((hlocate disk).symm.trans h) ((getLast?_splitFields hempty).mpr hslash)

/-- Something can be put where a path leads that has nothing at its end, and then it leads there. -/
theorem locate_free (hpath : meansDirectory path = false) (h : disk.locate path = .free place) :
    disk.entry? place = none ∧ ∀ entry, (disk.put place entry).locate path = .found place entry := by
  rcases locate_cases path with ⟨reached, _, hfree, hlocate⟩ | ⟨hempty, hlocate⟩
  · exact absurd ((hlocate disk).symm.trans h) (hfree _)
  · have hlast : (Text.splitFields '/' path).getLast? ≠ some "" := fun hlast => by
      rw [(getLast?_splitFields hempty).mp hlast] at hpath
      cases hpath
    obtain ⟨hnone, hput⟩ := follow_free hlast ((hlocate disk).symm.trans h)
    exact ⟨hnone, fun entry => (hlocate _).trans (hput entry)⟩

end Locate

/-- Of two disks the second one has this content in a file, and nothing else is different: neither what else is there
nor where any path leads. -/
structure Refilled (disk disk' : Disk) (place : List String) (content : Bytes) : Prop where
  here : disk'.here = disk.here
  places : disk'.entries.map Prod.fst = disk.entries.map Prod.fst
  entry : ∀ other, disk'.entry? other = if other = place then some (.file content) else disk.entry? other
  leads : ∀ path, disk'.locate path = (disk.locate path).refilled place content

theorem refilled_put {disk : Disk} {place : List String} {old : Bytes} (h : disk.entry? place = some (.file old))
    (content : Bytes) : Refilled disk (disk.put place (.file content)) place content := by
  have hentry := @entry?_put place disk (by simp [h]) (.file content)
  refine ⟨rfl, map_fst_insertEntry (fun hnone => ?_) _, hentry, fun path => ?_⟩
  · unfold entry? at h
    split at h
    · cases h
    · cases hnone.symm.trans h
  · rcases locate_cases path with ⟨reached, hfound, _, hlocate⟩ | ⟨_, hlocate⟩
    · rw [hlocate, hlocate]
      unfold Reached.refilled
      split
      · exact absurd rfl (hfound _ _)
      · rfl
    · rw [hlocate, hlocate]
      exact follow_refilled h hentry _ _

end Disk
end BuildTree
