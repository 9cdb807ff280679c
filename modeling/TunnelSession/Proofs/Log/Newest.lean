import Mathlib.Data.List.Nodup
import TunnelSession.Proofs.Log.Names
import TunnelSession.Proofs.Text.Numeral

/-!
The newest log of a folder.

* `IsLog` says which entries are logs, and `isLog_iff` that it is these that are looked through;
* `IsNewest`: the log with the greatest name, which is the one found (`newest?_eq_some_iff`), in
  whatever order the folder is listed (`newest?_of_perm`);
* `fileName_le_iff`: names compare as their dates do, and `exists_date_of_isDated` reads the date
  off a name;
* `newest_log_found` puts these together.
-/

namespace TunnelSession

namespace Log

/-- A name that is a text starting in `log-`. -/
theorem isLogName_iff {name : FileName} :
    isLogName name = true ↔ ∃ rest, name = .ofString (mark ++ rest) := by
  constructor
  · intro named
    obtain ⟨valid, starts⟩ := Bool.and_eq_true_iff.mp named
    obtain ⟨s, text⟩ := Option.isSome_iff_exists.mp valid
    obtain rfl := FileName.text?_eq_some_iff.mp text
    obtain ⟨rest, whole⟩ := List.isPrefixOf_iff_prefix.mp starts
    have encoded : mark.toList.utf8Encode ++ ⟨rest.toArray⟩ = s.toList.utf8Encode := by
      rw [String.utf8Encode_toList, String.utf8Encode_toList]
      apply ByteArray.ext
      apply Array.ext'
      simpa [FileName.ofString_eq] using whole
    obtain ⟨chars, whole⟩ := List.isPrefix_of_utf8Encode_append_eq_utf8Encode _ encoded
    refine ⟨String.ofList chars, congrArg _ (String.toList_inj.mp ?_)⟩
    rw [String.toList_append, String.toList_ofList, whole]
  · rintro ⟨rest, rfl⟩
    rw [isLogName, FileName.text?_ofString, FileName.ofString_append]
    simp

/-- An entry that is a log: a regular file, named by a text that starts in `log-`. -/
def IsLog (e : FileName × Entry) : Prop :=
  ∃ rest content, e = (.ofString (mark ++ rest), .file content)

theorem isLog_iff {e : FileName × Entry} : isLog e = true ↔ IsLog e := by
  obtain ⟨name, entry⟩ := e
  cases entry with
  | file content =>
    refine isLogName_iff.trans ⟨?_, ?_⟩
    · rintro ⟨rest, rfl⟩
      exact ⟨rest, content, rfl⟩
    · rintro ⟨rest, _, same⟩
      exact ⟨rest, congrArg Prod.fst same⟩
  | folder | link => simp [isLog, IsLog]

theorem isLog_fileName (d : Date) (content : ByteArray) : IsLog (d.fileName, .file content) := by
  simp only [Date.fileName, String.append_assoc]
  exact ⟨_, content, rfl⟩

section Newest

variable {dir dir' : Folder} {e f : FileName × Entry} {es : List (FileName × Entry)}

theorem later_cases (e f : FileName × Entry) :
    later e f = f ∧ e.1 ≤ f.1 ∨ later e f = e ∧ f.1 ≤ e.1 := by
  unfold later
  split
  · rename_i le
    exact .inl ⟨rfl, le⟩
  · rename_i after
    exact .inr ⟨rfl, (List.le_total e.1 f.1).resolve_left after⟩

/-- The latest of some entries is one of them, and no name among them is greater. -/
theorem foldl_later (e : FileName × Entry) (es : List (FileName × Entry)) :
    es.foldl later e ∈ e :: es ∧ ∀ f ∈ e :: es, f.1 ≤ (es.foldl later e).1 := by
  induction es generalizing e with
  | nil => simp
  | cons f es ih =>
    rw [List.foldl_cons]
    rcases later_cases e f with ⟨same, le⟩ | ⟨same, le⟩
    · obtain ⟨mem, greatest⟩ := ih f
      rw [same]
      refine ⟨List.mem_cons_of_mem _ mem, fun g there => ?_⟩
      rcases List.mem_cons.mp there with rfl | there
      · exact List.le_trans le (greatest f List.mem_cons_self)
      · exact greatest g there
    · obtain ⟨mem, greatest⟩ := ih e
      rw [same]
      refine ⟨?_, fun g there => ?_⟩
      · rcases List.mem_cons.mp mem with first | rest
        · exact List.mem_cons.mpr (.inl first)
        · exact List.mem_cons_of_mem _ (List.mem_cons_of_mem _ rest)
      · rcases List.mem_cons.mp there with rfl | there
        · exact greatest g List.mem_cons_self
        · rcases List.mem_cons.mp there with rfl | there
          · exact List.le_trans le (greatest e List.mem_cons_self)
          · exact greatest g (List.mem_cons_of_mem _ there)

/-- A log in the folder's listing with the greatest name, byte by byte. -/
structure IsNewest (dir : Folder) (e : FileName × Entry) : Prop where
  mem : e ∈ dir.listing
  log : IsLog e
  greatest : ∀ f ∈ dir.listing, IsLog f → f.1 ≤ e.1

theorem newest?_eq_none_iff : newest? dir = none ↔ ∀ e ∈ dir.listing, ¬ IsLog e := by
  simp only [← isLog_iff, ← List.filter_eq_nil_iff, newest?]
  split <;> simp_all

theorem isNewest_of_newest? (found : newest? dir = some e) : IsNewest dir e := by
  unfold newest? at found
  split at found
  · cases found
  · rename_i f fs logs
    obtain ⟨mem, greatest⟩ := foldl_later f fs
    rw [← logs, Option.some.inj found] at mem greatest
    obtain ⟨mem, log⟩ := List.mem_filter.mp mem
    refine ⟨mem, isLog_iff.mp log, fun g there log => ?_⟩
    exact greatest g (List.mem_filter.mpr ⟨there, isLog_iff.mpr log⟩)

/-- Where no two entries have one name, one of them is the newest log at most. -/
theorem IsNewest.unique (distinct : (dir.listing.map Prod.fst).Nodup) (first : IsNewest dir e)
    (second : IsNewest dir f) : e = f := by
  have same : e.1 = f.1 := List.le_antisymm (second.greatest e first.mem first.log)
    (first.greatest f second.mem second.log)
  exact List.inj_on_of_nodup_map distinct first.mem second.mem same

theorem newest?_eq_some_iff (distinct : (dir.listing.map Prod.fst).Nodup) :
    newest? dir = some e ↔ IsNewest dir e := by
  refine ⟨isNewest_of_newest?, fun newest => ?_⟩
  cases found : newest? dir with
  | none => exact absurd newest.log (newest?_eq_none_iff.mp found e newest.mem)
  | some f => rw [(isNewest_of_newest? found).unique distinct newest]

/-- The order of a listing does not matter. -/
theorem newest?_of_perm (distinct : (dir.listing.map Prod.fst).Nodup)
    (perm : dir'.listing.Perm dir.listing) : newest? dir' = newest? dir := by
  have distinct' : (dir'.listing.map Prod.fst).Nodup := (perm.map _).nodup_iff.mpr distinct
  apply Option.ext
  intro e
  rw [newest?_eq_some_iff distinct, newest?_eq_some_iff distinct']
  constructor
  · rintro ⟨mem, log, greatest⟩
    exact ⟨perm.mem_iff.mp mem, log, fun f there => greatest f (perm.mem_iff.mpr there)⟩
  · rintro ⟨mem, log, greatest⟩
    exact ⟨perm.mem_iff.mpr mem, log, fun f there => greatest f (perm.mem_iff.mp there)⟩

/-- The text of the newest log, if it is in reach and is one. -/
theorem newestText_of_newest? (distinct : (dir.listing.map Prod.fst).Nodup) {name : FileName}
    {content : ByteArray} (found : newest? dir = some (name, .file content)) : newestText dir =
      if Folder.fits dir.room name then (String.fromUTF8? content).getD "" else "" := by
  have mem := (isNewest_of_newest? found).mem
  obtain ⟨state, room⟩ := dir
  cases state with
  | present es =>
    have held : es.lookup name = some (.file content) := Folder.lookup_of_mem distinct mem
    simp only [newestText, found, Option.bind_some, Folder.text?, Folder.find?, Folder.entries,
      Folder.State.entries, held]
    split <;> rfl
  | missing | blocked | unreached | unlisted => cases mem

theorem newestText_of_none (found : newest? dir = none) : newestText dir = "" := by
  rw [newestText, found]
  rfl

end Newest

section Dates

variable {d e : Date} {name : FileName}

/-- The first date is earlier: it is less in the first of their numbers, from the year to the
second, that are not the same. -/
def Date.Before (d e : Date) : Prop :=
  d.year < e.year ∨ d.year = e.year ∧
    (d.month < e.month ∨ d.month = e.month ∧
      (d.day < e.day ∨ d.day = e.day ∧
        (d.hour < e.hour ∨ d.hour = e.hour ∧
          (d.minute < e.minute ∨ d.minute = e.minute ∧ d.second < e.second))))

theorem Date.before_total (d e : Date) : d.Before e ∨ d = e ∨ e.Before d := by
  obtain ⟨_, _, _, _, _, _⟩ := d
  obtain ⟨_, _, _, _, _, _⟩ := e
  simp only [Before, mk.injEq]
  omega

theorem fileName_lt_of_before (first : d.Fits) (second : e.Fits) (before : d.Before e) :
    d.fileName < e.fileName := by
  apply fileName_lt first second
  obtain ⟨_, month, day, _, minute, sec⟩ := first
  obtain ⟨_, month', day', _, minute', sec'⟩ := second
  simp only [Date.Before] at before
  simp only [Date.dateNumber, Date.timeNumber]
  omega

/-- The names of logs are ordered as their dates are. -/
theorem fileName_le_iff (first : d.Fits) (second : e.Fits) :
    d.fileName ≤ e.fileName ↔ d.Before e ∨ d = e := by
  constructor
  · intro le
    rcases d.before_total e with before | same | after
    · exact .inl before
    · exact .inr same
    · exact absurd (fileName_lt_of_before second first after) (List.not_lt.mpr le)
  · rintro (before | rfl)
    · exact List.le_of_lt (fileName_lt_of_before first second before)
    · exact List.le_refl _

/-- Digits say a number that takes no more of them. -/
theorem exists_digits {ds : List Char} (all : ∀ c ∈ ds, c.isDigit = true) :
    ∃ n < 10 ^ ds.length, FileName.ofString (String.ofList ds) = digits ds.length n := by
  induction ds using List.reverseRecOn with
  | nil => exact ⟨0, by decide, by rw [FileName.ofString_eq]; rfl⟩
  | append_singleton ds c ih =>
    obtain ⟨n, fits, same⟩ := ih fun c mem => all c (List.mem_append_left _ mem)
    obtain ⟨small, last⟩ := Text.digitChar_value (all c (by simp))
    generalize c.toNat - '0'.toNat = v at small last
    have front : (n * 10 + v) / 10 = n := by omega
    have unit : (n * 10 + v) % 10 = v := by omega
    refine ⟨n * 10 + v, ?_, ?_⟩
    · rw [List.length_append, List.length_singleton, Nat.pow_succ]
      omega
    · rw [ofString_ofList] at same ⊢
      rw [List.flatMap_append, same, List.flatMap_singleton, ← last, encode_digitChar v small,
        List.length_append, List.length_singleton, digits, front, unit]

theorem exists_date {n m : Nat} (date : n < 10 ^ 8) (time : m < 10 ^ 6) :
    ∃ d : Date, d.Fits ∧ d.dateNumber = n ∧ d.timeNumber = m := by
  refine ⟨⟨n / 10000, n / 100 % 100, n % 100, m / 10000, m / 100 % 100, m % 100⟩, ?_, ?_, ?_⟩
  · constructor <;> dsimp only <;> omega
  · simp only [Date.dateNumber]
    omega
  · simp only [Date.timeNumber]
    omega

/-- The name of an engine's log, taken apart: eight digits, a dash and six digits. -/
theorem exists_parts_of_isDated (dated : isDated name = true) : ∃ ds ts : List Char,
    ds.length = 8 ∧ ts.length = 6 ∧ (∀ c ∈ ds, c.isDigit = true) ∧
    (∀ c ∈ ts, c.isDigit = true) ∧
    name = .ofString (mark ++ (String.ofList ds ++ ("-" ++ (String.ofList ts ++ ".txt")))) := by
  have named : isLogName name = true := by
    unfold isDated at dated
    split at dated
    · simp only [decide_eq_true_eq] at dated
      exact dated.2.1
    · cases dated
  obtain ⟨rest, rfl⟩ := isLogName_iff.mp named
  have chars : (mark ++ rest).toList = ['l', 'o', 'g', '-'] ++ rest.toList := String.toList_append
  simp only [isDated, FileName.text?_ofString, Option.map_some, chars, decide_eq_true_eq] at dated
  obtain ⟨length, _, date, dash, time, ending⟩ := dated
  generalize letters : rest.toList = r at *
  have length : r.length = 19 := by simpa using length
  have dash : r[8]? = some '-' := by simpa using dash
  have ending : (r.drop 9).drop 6 = ['.', 't', 'x', 't'] := by simpa using ending
  have parts : r = r.take 8 ++ '-' :: ((r.drop 9).take 6 ++ ['.', 't', 'x', 't']) := by
    obtain ⟨_, dash⟩ := List.getElem?_eq_some_iff.mp dash
    rw [← ending, List.take_append_drop, ← dash, ← List.drop_eq_getElem_cons,
      List.take_append_drop]
  refine ⟨r.take 8, (r.drop 9).take 6, by simp [length], by simp [length], by simpa using date,
    by simpa using time, ?_⟩
  apply congrArg (FileName.ofString <| mark ++ ·)
  apply String.toList_inj.mp
  refine letters.trans (parts.trans ?_)
  simp only [String.toList_append, String.toList_ofList]
  rfl

/-- What is named like an engine's log is named for a date. -/
theorem exists_date_of_isDated (dated : isDated name = true) :
    ∃ d : Date, d.Fits ∧ name = d.fileName := by
  obtain ⟨ds, ts, eight, six, date, time, rfl⟩ := exists_parts_of_isDated dated
  obtain ⟨n, small, read⟩ := exists_digits date
  obtain ⟨m, small', read'⟩ := exists_digits time
  rw [eight] at small read
  rw [six] at small' read'
  obtain ⟨d, fits, rfl, rfl⟩ := exists_date small small'
  refine ⟨d, fits, ?_⟩
  rw [fileName_eq fits]
  simp only [FileName.ofString_append, read, read']

end Dates

/-- **The newest log is found.** Take any folder, with entries of any kinds and names, no two of one
name, listed in any order. There is a newest log exactly if some regular file, links not followed,
has a name that is a text starting in `log-`, and it is the one of these with the greatest name byte
by byte. Where all of these are named as engines name their logs, this is the one with the latest
date, from the year to the second. The text shown is that file's, or nothing if its content is no
text or its path is too long to be read, and nothing if there is no log; it is never that of another
file. The order of the listing makes no difference. -/
theorem newest_log_found (dir : Folder) (distinct : (dir.listing.map Prod.fst).Nodup) :
    (newest? dir = none ↔ ∀ e ∈ dir.listing, ¬ IsLog e) ∧
    (∀ e, newest? dir = some e ↔ IsNewest dir e) ∧
    (∀ e, newest? dir = some e → (∀ f ∈ dir.listing, IsLog f → isDated f.1 = true) →
      ∃ d : Date, d.Fits ∧ e.1 = d.fileName ∧ ∀ d' : Date, d'.Fits →
        ∀ content, (d'.fileName, .file content) ∈ dir.listing → d'.Before d ∨ d' = d) ∧
    (newest? dir = none → newestText dir = "") ∧
    (∀ name content, newest? dir = some (name, .file content) → newestText dir =
      if Folder.fits dir.room name then (String.fromUTF8? content).getD "" else "") ∧
    ∀ dir' : Folder, dir'.room = dir.room → dir'.listing.Perm dir.listing →
      newest? dir' = newest? dir ∧ newestText dir' = newestText dir := by
  refine ⟨newest?_eq_none_iff, fun e => newest?_eq_some_iff distinct, ?_, newestText_of_none,
    fun name content => newestText_of_newest? distinct, ?_⟩
  · intro e found dated
    obtain ⟨mem, log, greatest⟩ := isNewest_of_newest? found
    obtain ⟨d, fits, name⟩ := exists_date_of_isDated (dated e mem log)
    refine ⟨d, fits, name, fun d' fits' content there => ?_⟩
    rw [← fileName_le_iff fits' fits, ← name]
    exact greatest _ there (isLog_fileName d' content)
  · intro dir' room perm
    have same := newest?_of_perm distinct perm
    refine ⟨same, ?_⟩
    cases found : newest? dir with
    | none => rw [newestText_of_none found, newestText_of_none (same.trans found)]
    | some e =>
      obtain ⟨rest, content, rfl⟩ := (isNewest_of_newest? found).log
      have distinct' : (dir'.listing.map Prod.fst).Nodup := (perm.map _).nodup_iff.mpr distinct
      rw [newestText_of_newest? distinct found,
        newestText_of_newest? distinct' (same.trans found), room]

/-- A folder with two logs, of which the newer one is no text, next to a link and a folder of newer
names and a file whose name is no text. -/
def crowded : Folder := .present
  [(.ofString "log-20240302-101500.txt", .file ⟨#[255]⟩),
    (.ofString "log-20250101-000000.txt", .link),
    (.ofString "log-20240101-080000.txt", .file "old".toUTF8),
    (.ofString "log-20260101-000000.txt", .folder),
    (FileName.ofString "log-" ++ [255], .file .empty)]

/-- The newer log is the newest one, and no text is shown. -/
theorem newest_log_found_in_crowd :
    newest? crowded = some (.ofString "log-20240302-101500.txt", .file ⟨#[255]⟩) ∧
    newestText crowded = "" ∧
    ∃ d : Date, .ofString "log-20240302-101500.txt" = d.fileName ∧ ∀ d' : Date, d'.Fits →
      ∀ content, (d'.fileName, .file content) ∈ crowded.listing → d'.Before d ∨ d' = d := by
  have distinct : (crowded.listing.map Prod.fst).Nodup := by decide +kernel
  have found : newest? crowded = some (.ofString "log-20240302-101500.txt", .file ⟨#[255]⟩) := by
    decide +kernel
  have dated : ∀ f ∈ crowded.listing, isLog f = true → isDated f.1 = true := by decide +kernel
  obtain ⟨_, _, latest, _, text, _⟩ := newest_log_found crowded distinct
  obtain ⟨d, _, name, later⟩ :=
    latest _ found fun f mem log => dated f mem (isLog_iff.mpr log)
  refine ⟨found, ?_, d, name, later⟩
  rw [text _ _ found]
  decide +kernel

end Log

end TunnelSession
