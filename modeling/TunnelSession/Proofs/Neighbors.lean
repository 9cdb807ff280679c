import TunnelSession.Neighbors
import TunnelSession.Proofs.Sorting

/-!
Snapshots of neighbors. A snapshot that an engine makes ascends by address, so the places of an
address are those after the lower ones: `Ascending.address_iff`. `Enumerates` says what the
candidates of some neighbors are: numbered from zero, each neighbor once, by address, and those of
one address as they were given. There is one such list, and `candidates_enumerate` shows that
a snapshot offers it.
-/

namespace TunnelSession

namespace Address

variable {a b : Address}

theorem toNat_inj : a.toNat = b.toNat ↔ a = b := by
  constructor
  · intro same
    obtain ⟨a₁, a₂, a₃, a₄⟩ := a
    obtain ⟨b₁, b₂, b₃, b₄⟩ := b
    have bounds := And.intro (And.intro a₂.toNat_lt a₃.toNat_lt) a₄.toNat_lt
    have bounds' := And.intro (And.intro b₂.toNat_lt b₃.toNat_lt) b₄.toNat_lt
    simp only [toNat] at same
    simp only [mk.injEq, ← UInt8.toNat_inj]
    omega
  · rintro rfl
    rfl

/-- The octets of an address, the most significant first. -/
def octets (a : Address) : List UInt8 := [a.first, a.second, a.third, a.fourth]

/-- The order of addresses as numbers is that of their octets, from the first one on. -/
theorem toNat_lt_iff : a.toNat < b.toNat ↔ a.octets < b.octets := by
  obtain ⟨a₁, a₂, a₃, a₄⟩ := a
  obtain ⟨b₁, b₂, b₃, b₄⟩ := b
  have bounds := And.intro (And.intro a₂.toNat_lt a₃.toNat_lt) a₄.toNat_lt
  have bounds' := And.intro (And.intro b₂.toNat_lt b₃.toNat_lt) b₄.toNat_lt
  simp only [toNat, octets, List.cons_lt_cons_iff, List.lt_irrefl, and_false, or_false,
    UInt8.lt_iff_toNat_lt, ← UInt8.toNat_inj]
  omega

theorem toNat_le_iff : a.toNat ≤ b.toNat ↔ a.octets ≤ b.octets := by
  rw [← Nat.not_lt, toNat_lt_iff, List.not_lt]

end Address

namespace Neighbor

/-- Whether `a` may stand before `b` in a snapshot. -/
def before (a b : Neighbor) : Bool := a.address.toNat ≤ b.address.toNat

theorem before_trans (a b c : Neighbor) (first : before a b = true) (second : before b c = true) :
    before a c = true := by
  simp only [before, decide_eq_true_eq] at first second ⊢
  exact Nat.le_trans first second

theorem before_total (a b : Neighbor) : (before a b || before b a) = true := by
  simpa [before] using Nat.le_total a.address.toNat b.address.toNat

/-- Neighbors tie if they have one address. -/
theorem tied_before (a : Neighbor) : tied before a = fun b => decide (b.address = a.address) := by
  funext b
  rw [Bool.eq_iff_iff]
  simp only [tied, before, Bool.and_eq_true, decide_eq_true_eq, ← Address.toNat_inj]
  omega

end Neighbor

/-- The neighbor that a candidate offers. -/
def Candidate.neighbor (c : Candidate) : Neighbor := ⟨c.address, c.name⟩

namespace Snapshot

/-- Lower addresses stand first. -/
def Ascending (s : Snapshot) : Prop :=
  s.entries.Pairwise fun a b => a.address.toNat ≤ b.address.toNat

theorem ofList_arranges (ns : List Neighbor) : Arranges Neighbor.before ns (ofList ns).entries :=
  mergeSort_arranges Neighbor.before_trans Neighbor.before_total ns

theorem ofList_ascending (ns : List Neighbor) : Ascending (.ofList ns) :=
  (ofList_arranges ns).ordered.imp of_decide_eq_true

/-- How many neighbors have lower addresses. -/
def below (s : Snapshot) (a : Address) : Nat := s.entries.countP (·.address.toNat < a.toNat)

/-- How many neighbors have no higher addresses. -/
def upTo (s : Snapshot) (a : Address) : Nat := s.entries.countP (·.address.toNat ≤ a.toNat)

/-- The neighbor in a place has a given address exactly if the place comes after those of the lower
addresses and before those of the higher ones. -/
theorem Ascending.address_iff {s : Snapshot} (ascending : s.Ascending) {k : Nat} {n : Neighbor}
    (there : s.get? k = some n) (a : Address) :
    n.address = a ↔ s.below a ≤ k ∧ k < s.upTo a := by
  have lower := lt_countP_iff ascending (p := fun n => decide (n.address.toNat < a.toNat))
    (fun m n first below => by simp only [decide_eq_true_eq] at below ⊢; omega) there
  have upper := lt_countP_iff ascending (p := fun n => decide (n.address.toNat ≤ a.toNat))
    (fun m n first below => by simp only [decide_eq_true_eq] at below ⊢; omega) there
  rw [decide_eq_true_iff] at lower upper
  rw [← Address.toNat_inj, below, upTo, upper]
  omega

/-- A candidate is the neighbor in its place. -/
theorem getElem?_candidates (s : Snapshot) (k : Nat) :
    s.candidates[k]? = (s.get? k).map fun n => ⟨k, n.name, n.address⟩ := by
  simp only [candidates, get?, List.getElem?_mapIdx]

section Enumeration

variable {s : Snapshot} {ns ns' : List Neighbor} {cs : List Candidate}

/-- What the candidates of some neighbors are. -/
structure Enumerates (ns : List Neighbor) (cs : List Candidate) : Prop where
  numbered : cs.map Candidate.id = List.range ns.length
  perm : (cs.map Candidate.neighbor).Perm ns
  ascending : cs.Pairwise fun a b => a.address.toNat ≤ b.address.toNat
  octetwise : cs.Pairwise fun a b => a.address.octets ≤ b.address.octets
  steady : ∀ a : Address, (cs.map Candidate.neighbor).filter (·.address = a) =
    ns.filter (·.address = a)

theorem size_ofList (ns : List Neighbor) : (ofList ns).size = ns.length :=
  List.length_mergeSort ns

/-- The neighbors of one address stay as they were given. -/
theorem ofList_steady (ns : List Neighbor) (a : Address) :
    (ofList ns).entries.filter (·.address = a) = ns.filter (·.address = a) := by
  have steady := (ofList_arranges ns).steady ⟨a, ""⟩
  rwa [Neighbor.tied_before] at steady

/-- Two lists of neighbors make the same snapshot exactly if they have the same neighbors of each
address, in the same order. -/
theorem ofList_eq_iff : ofList ns' = ofList ns ↔
    ∀ a : Address, ns'.filter (·.address = a) = ns.filter (·.address = a) := by
  constructor
  · intro same a
    rw [← ofList_steady ns', same, ofList_steady]
  · intro same
    have entries : (ofList ns').entries = (ofList ns).entries := by
      apply eq_of_ordered Neighbor.before_total (ofList_arranges ns').ordered
        (ofList_arranges ns).ordered
      intro a
      rw [Neighbor.tied_before, ofList_steady, ofList_steady, same]
    exact congrArg Snapshot.mk entries

theorem neighbor_candidates (s : Snapshot) : s.candidates.map Candidate.neighbor = s.entries := by
  apply List.ext_getElem?
  intro k
  rw [List.getElem?_map, getElem?_candidates, get?]
  cases s.entries[k]? <;> rfl

theorem id_candidates (s : Snapshot) : s.candidates.map Candidate.id = List.range s.size := by
  apply List.ext_getElem
  · simp [candidates, size]
  · intro k _ _
    simp [candidates]

/-- Candidates are told by their numbers and their neighbors. -/
theorem eq_candidates (numbered : cs.map Candidate.id = List.range s.size)
    (neighbors : cs.map Candidate.neighbor = s.entries) : cs = s.candidates := by
  apply List.ext_getElem?
  intro k
  rw [getElem?_candidates, get?, ← neighbors, List.getElem?_map]
  cases there : cs[k]? with
  | none => rfl
  | some c =>
    have place : (List.range s.size)[k]? = some c.id := by
      rw [← numbered, List.getElem?_map, there, Option.map_some]
    obtain ⟨_, place⟩ := List.getElem?_eq_some_iff.mp place
    rw [List.getElem_range] at place
    subst place
    rfl

theorem enumerates_iff : Enumerates ns cs ↔ cs = (ofList ns).candidates := by
  constructor
  · rintro ⟨numbered, perm, ascending, _, steady⟩
    have ordered : (cs.map Candidate.neighbor).Pairwise (Neighbor.before · ·) :=
      List.pairwise_map.mpr (ascending.imp fun le => decide_eq_true le)
    have arranges : Arranges Neighbor.before ns (cs.map Candidate.neighbor) := by
      refine ⟨perm, ordered, fun a => ?_⟩
      rw [Neighbor.tied_before]
      exact steady a.address
    have neighbors := (ofList_arranges ns).unique Neighbor.before_total arranges
    exact eq_candidates (by rwa [size_ofList]) neighbors
  · rintro rfl
    have ascending : (ofList ns).candidates.Pairwise fun a b =>
        a.address.toNat ≤ b.address.toNat := by
      have entries := ofList_ascending ns
      rw [Ascending, ← neighbor_candidates, List.pairwise_map] at entries
      exact entries
    refine ⟨?_, ?_, ascending, ascending.imp Address.toNat_le_iff.mp, ?_⟩
    · rw [id_candidates, size_ofList]
    · rw [neighbor_candidates]
      exact (ofList_arranges ns).perm
    · rw [neighbor_candidates]
      exact ofList_steady ns

/-- **A snapshot enumerates its neighbors.** Take any list of neighbors, whatever their names and
however often an address is among them. The candidates of the snapshot that is made of it are
numbered from zero on and are the neighbors given, each as often as it was. They ascend by address,
read as a number, which is octet by octet, and those of one address stand as they were given. No
other list of candidates is so. There is a neighbor in each place below their number and in no
other, and it is the candidate of that number. The neighbors offered, made a snapshot again, give
the same one; and another list gives it exactly if for each address it has the same neighbors in the
same order. -/
theorem candidates_enumerate (ns : List Neighbor) :
    let s := ofList ns
    (∀ cs, Enumerates ns cs ↔ cs = s.candidates) ∧
    s.size = ns.length ∧
    (∀ i, (s.get? i).isSome = true ↔ i < ns.length) ∧
    (∀ i, s.candidates[i]? = (s.get? i).map fun n => ⟨i, n.name, n.address⟩) ∧
    ofList (s.candidates.map Candidate.neighbor) = s ∧
    ∀ ns', ofList ns' = s ↔
      ∀ a : Address, ns'.filter (·.address = a) = ns.filter (·.address = a) := by
  intro s
  refine ⟨fun cs => enumerates_iff, size_ofList ns, ?_, getElem?_candidates s, ?_,
    fun ns' => ofList_eq_iff⟩
  · intro i
    rw [get?, Option.isSome_iff_ne_none, ne_eq, List.getElem?_eq_none_iff, Nat.not_le,
      ← size_ofList ns, size]
  · rw [neighbor_candidates]
    exact ofList_eq_iff.mpr (ofList_steady ns)

end Enumeration

end Snapshot

end TunnelSession
