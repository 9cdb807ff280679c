import TunnelSession.Apps
import TunnelSession.Proofs.Sorting

/-!
The listing of applications. `Lists` says what it is: the installed applications but the system's
own, the excluded ones first, each group by name, and what is equal in both as it was installed.
There is one such listing, and `listing_is_stable_sort` shows that `eligibleApps` is it.
-/

namespace TunnelSession

namespace EligibleApp

variable {excluded : AppSet} {a b : EligibleApp}

theorem before_iff : before excluded a b = true ↔
    (excluded.contains b.id = true → excluded.contains a.id = true) ∧
    (excluded.contains a.id = excluded.contains b.id → a.name ≤ b.name) := by
  unfold before
  cases excluded.contains a.id <;> cases excluded.contains b.id <;> simp

theorem before_trans (a b c : EligibleApp) (first : before excluded a b = true)
    (second : before excluded b c = true) : before excluded a c = true := by
  simp only [before_iff] at first second ⊢
  refine ⟨fun last => first.1 (second.1 last), fun same => ?_⟩
  -- the one between is of the same group as the other two
  have between : excluded.contains a.id = excluded.contains b.id := by
    cases group : excluded.contains c.id with
    | true => rw [same, second.1 group, group]
    | false =>
      rw [group] at same
      cases middle : excluded.contains b.id with
      | true => simp [first.1 middle] at same
      | false => exact same
  exact String.le_trans (first.2 between) (second.2 (between.symm.trans same))

theorem before_total (a b : EligibleApp) :
    (before excluded a b || before excluded b a) = true := by
  simp only [Bool.or_eq_true, before_iff]
  cases excluded.contains a.id <;> cases excluded.contains b.id <;> simp [String.le_total]

/-- Whether `b` is of the same group and of the same name as `a`. -/
def isLike (excluded : AppSet) (a b : EligibleApp) : Bool :=
  excluded.contains b.id = excluded.contains a.id ∧ b.name = a.name

theorem tied_eq (a : EligibleApp) : tied (before excluded) a = isLike excluded a := by
  funext b
  rw [Bool.eq_iff_iff]
  simp only [tied, isLike, Bool.and_eq_true, before_iff, decide_eq_true_iff]
  constructor
  · rintro ⟨⟨first, named⟩, second, named'⟩
    have same : excluded.contains a.id = excluded.contains b.id :=
      Bool.eq_iff_iff.mpr ⟨second, first⟩
    exact ⟨same.symm, String.le_antisymm (named' same.symm) (named same)⟩
  · rintro ⟨group, name⟩
    simp [group, name]

/-- An application that was listed, installed. -/
def installed (app : EligibleApp) : InstalledApp := ⟨app.name, app.id, false⟩

end EligibleApp

/-- The installed applications that are offered, as they were installed. -/
def offered (installed : List InstalledApp) : List EligibleApp :=
  (installed.filter (!·.system)).map .ofInstalled

theorem offered_installed (listing : List EligibleApp) :
    offered (listing.map EligibleApp.installed) = listing := by
  simp [offered, List.filter_map, Function.comp_def, EligibleApp.installed, EligibleApp.ofInstalled]

/-- What a listing is. -/
structure Lists (installed : List InstalledApp) (excluded : AppSet)
    (listing : List EligibleApp) : Prop where
  perm : listing.Perm (offered installed)
  grouped : listing.Pairwise fun a b =>
    excluded.contains b.id = true → excluded.contains a.id = true
  named : listing.Pairwise fun a b =>
    excluded.contains a.id = excluded.contains b.id → a.name ≤ b.name
  steady : ∀ a, listing.filter (EligibleApp.isLike excluded a) =
    (offered installed).filter (EligibleApp.isLike excluded a)

section

variable {installed : List InstalledApp} {excluded : AppSet} {listing : List EligibleApp}

theorem lists_iff_arranges : Lists installed excluded listing ↔
    Arranges (EligibleApp.before excluded) (offered installed) listing := by
  constructor
  · rintro ⟨perm, grouped, named, steady⟩
    refine ⟨perm, (grouped.and named).imp EligibleApp.before_iff.mpr, fun a => ?_⟩
    rw [EligibleApp.tied_eq]
    exact steady a
  · rintro ⟨perm, ordered, steady⟩
    have ordered := ordered.imp EligibleApp.before_iff.mp
    refine ⟨perm, ordered.imp And.left, ordered.imp And.right, fun a => ?_⟩
    rw [← EligibleApp.tied_eq]
    exact steady a

theorem eligibleApps_arranges : Arranges (EligibleApp.before excluded) (offered installed)
    (eligibleApps installed excluded) :=
  mergeSort_arranges EligibleApp.before_trans EligibleApp.before_total _

/-- **The listing is the one stable sort.** Take any installed applications, of whatever names and
ids, and any excluded set. The applications listed are those installed that are not the system's
own, each as often as it is installed. Every excluded one stands before every one that is not,
within each of the two groups the names ascend by code points, and those of one group and one name
stand as they were installed. No other list is so. Where what is listed is itself installed, it is
listed as it stands. -/
theorem listing_is_stable_sort (installed : List InstalledApp) (excluded : AppSet) :
    Lists installed excluded (eligibleApps installed excluded) ∧
    (∀ listing, Lists installed excluded listing → listing = eligibleApps installed excluded) ∧
    eligibleApps ((eligibleApps installed excluded).map EligibleApp.installed) excluded =
      eligibleApps installed excluded := by
  have arranges : Arranges (EligibleApp.before excluded) (offered installed)
    (eligibleApps installed excluded) := eligibleApps_arranges
  refine ⟨lists_iff_arranges.mpr arranges, fun listing lists => ?_, ?_⟩
  · exact arranges.unique EligibleApp.before_total (lists_iff_arranges.mp lists)
  · change (offered ((eligibleApps installed excluded).map EligibleApp.installed)).mergeSort
      (EligibleApp.before excluded) = _
    rw [offered_installed]
    exact List.mergeSort_of_pairwise arranges.ordered

end

end TunnelSession
