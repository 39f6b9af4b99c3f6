import Scaffold.Proofs.Store.Presence

/-!
# What a removal answers

In any store, whatever links it has, a removal takes away the one entry that its path names, a last
link not followed, if that is a file, a link or an empty directory, and answers whether it did
(`RemovesExactly`). It asks first what the path leads to behind all links, and where that is a name
that is too long the question is refused and the removal with it (`removePath_exact`); a path that
is not too long itself gets there only through a link. The root of a disk with nothing on it is an
empty directory too, and is refused.
-/

namespace Scaffold.Store

/-- A path names what stands at a place; a last link is not followed. -/
def Names (s : Store) (p : Path) (loc : Loc) : Prop :=
  p.hasNul = false ∧ s.place .itself p = .entry loc ∧ (s.at? loc).isSome

/-- A file, a link, or a directory with nothing in it that is not the root. -/
def IsRemovable (s : Store) (loc : Loc) : Prop :=
  ∃ e, s.at? loc = some e ∧ (e = .directory → loc ≠ [] ∧ ∀ name, s.at? (name :: loc) = none)

/-- Behind all links a path leads to a name that is too long. -/
def LeadsTooFar (s : Store) (p : Path) : Prop :=
  p.hasNul = false ∧ s.place .target p = .refused .nameTooLong

/-- What a removal of a path answers and leaves. -/
structure RemovesExactly (s : Store) (p : Path) (b : Bool) (t : Store) : Prop where
  answer : b = true ↔ ∃ loc, s.Names p loc ∧ s.IsRemovable loc
  /-- The named entry is gone, and all others are as they were. -/
  only : ∀ loc, s.Names p loc → s.IsRemovable loc →
    t.at? loc = none ∧ ∀ other, other ≠ loc → t.at? other = s.at? other
  otherwise : b = false → t = s

variable {s t : Store} {p : Path} {aim : Aim} {here dir loc other : Loc}
  {names rest : List String} {target : String} {place : Place} {links : Nat} {why : Refusal}
  {f : Fault} {b : Bool}

theorem isLoose_iff_isRemovable : s.isLoose loc = true ↔ s.IsRemovable loc := by
  unfold isLoose IsRemovable
  cases hat : s.at? loc with
  | none => simp
  | some e =>
    cases e with
    | file content => simp
    | link target => simp
    | directory => simp [isBare_iff, and_comm]

theorem strikes_iff : s.Strikes p loc ↔ s.Names p loc ∧ s.IsRemovable loc := by
  rw [Strikes, Names, ← isLoose_iff_isRemovable]
  constructor
  · rintro ⟨hnul, hpl, hloose⟩
    exact ⟨⟨hnul, hpl, isLoose_isSome hloose⟩, hloose⟩
  · rintro ⟨⟨hnul, hpl, -⟩, hloose⟩
    exact ⟨hnul, hpl, hloose⟩

theorem removesExactly_of_ok (h : s.removePath p = .ok (b, t)) : RemovesExactly s p b t := by
  rcases removePath_ok h with ⟨loc, hstrike, rfl, rfl⟩ | ⟨rfl, rfl, hnone⟩
  · refine ⟨iff_of_true rfl ⟨loc, strikes_iff.mp hstrike⟩, fun l hn hr => ?_, nofun⟩
    obtain rfl : l = loc := (strikes_iff.mpr ⟨hn, hr⟩).unique hstrike
    exact ⟨at?_erase_self (isLoose_ne_nil hstrike.2.2), fun other hne => at?_erase_of_ne hne⟩
  · refine ⟨iff_of_false nofun ?_, fun l hn hr => ?_, fun _ => rfl⟩
    · rintro ⟨loc, hloc⟩
      exact hnone loc (strikes_iff.mpr hloc)
    · exact absurd (strikes_iff.mpr ⟨hn, hr⟩) (hnone l)

theorem place_refused (ha : aim ≠ .creation) (h : s.place aim p = .refused why) :
    why.meansAbsent = true ∨ why = .nameTooLong := by
  unfold place at h
  split at h
  · cases h
    exact .inr rfl
  · exact (walk_refused ha h).imp_right And.left

/-- A question is refused only for a name that is too long. -/
theorem look_error_iff (ha : aim ≠ .creation) : s.look aim p = .error f ↔
    p.hasNul = false ∧ s.place aim p = .refused .nameTooLong ∧
      f = .refused .nameTooLong p.text := by
  unfold look probe
  cases p.hasNul with
  | true => simp
  | false =>
    cases hpl : s.place aim p with
    | entry loc => simp
    | vacant dir name => simp
    | refused why =>
      rcases place_refused ha hpl with habsent | rfl
      · have hne : why ≠ .nameTooLong := by
          rintro rfl
          cases habsent
        simp [habsent, hne]
      · simp [Refusal.meansAbsent, eq_comm]

theorem leadsTooFar_iff : s.LeadsTooFar p ↔
    s.look .target p = .error (.refused .nameTooLong p.text) := by
  rw [look_error_iff (by decide), LeadsTooFar]
  simp

theorem removePath_of_bareRoot (h : s.NamesBareRoot p) : s.removePath p =
    .error (.refused (if p.names.getLast? = some ".." then .notEmpty else .busy) p.text) := by
  obtain ⟨hnul, hpl, hbare⟩ := h
  have hl : s.look .itself p = .ok (some ([], .directory)) :=
    look_eq_some.mpr ⟨hnul, hpl, at?_root⟩
  rw [removePath_of_directory hl, if_pos ⟨rfl, hbare⟩]

/-- **Removals are exact.** In any store, with links of any kind, a removal takes away the one entry
that its path names, a last link not followed, if that is a file, a link or an empty directory other
than the root. It answers whether it did, and changes nothing if not. It is refused where the path
leads to a name that is too long, and for a path that is not too long this is the work of a link to
such a name; and it is refused for the root of a disk with nothing on it. -/
theorem removePath_exact (s : Store) (p : Path) :
    (¬ s.LeadsTooFar p → ¬ s.NamesBareRoot p →
        ∃ b t, s.removePath p = .ok (b, t) ∧ RemovesExactly s p b t) ∧
      (s.LeadsTooFar p → s.removePath p = .error (.refused .nameTooLong p.text)) ∧
      (s.LeadsTooFar p → p.IsShort → s.HasLongLink) ∧
      (s.NamesBareRoot p → ∃ why, s.removePath p = .error (.refused why p.text)) := by
  refine ⟨fun hnear hroot => ?_, fun hfar => ?_, fun hfar hp => ?_, fun hroot => ?_⟩
  · cases h : s.removePath p with
    | ok r => exact ⟨r.1, r.2, rfl, removesExactly_of_ok h⟩
    | error f =>
      rcases removePath_error_cases h with hlook | ⟨hbare, -⟩
      · obtain ⟨-, -, rfl⟩ := (look_error_iff (by decide)).mp hlook
        exact absurd (leadsTooFar_iff.mpr hlook) hnear
      · exact absurd hbare hroot
  · exact removePath_of_target_error (leadsTooFar_iff.mp hfar)
  · exact look_error (by decide) hp (leadsTooFar_iff.mp hfar)
  · exact ⟨_, removePath_of_bareRoot hroot⟩

def farName : String := String.ofList (List.replicate 86 '語')

def tangle : Store := ⟨[(["keep"], .directory), (["a.txt", "keep"], .file .empty),
  (["inside"], .link "keep"), (["loop"], .link "loop"), (["gone"], .link "none"),
  (["far"], .link farName)]⟩

instance : Decidable (s.LeadsTooFar p) := by unfold LeadsTooFar; infer_instance

theorem walk_of_atLink (h : s.advance aim here names = .atLink dir target rest) (links : Nat) :
    s.walk aim here names (links + 1) =
      s.walk aim (if target.toList.head? = some '/' then [] else dir)
        (targetNames target ++ rest) links := by
  rw [walk, h]

theorem walk_of_ended (h : s.advance aim here names = .ended place) (links : Nat) :
    s.walk aim here names links = place := by
  cases links <;> rw [walk, h]

theorem tangle_leadsTooFar : tangle.LeadsTooFar ⟨.root, ["far"]⟩ := by
  have hlink : tangle.advance .target [] ["far"] = .atLink [] farName [] := rfl
  have hnames : targetNames farName = [farName] := by
    have hchars : farName.toList = List.replicate 86 '語' := String.toList_ofList
    rw [targetNames, hchars]
    rfl
  have hend : tangle.advance .target [] [farName] = .ended (.refused .nameTooLong) := by
    have hroot : tangle.isDirectoryAt [] = true := rfl
    have hlong : nameLimit < farName.utf8ByteSize := by decide +kernel
    have hdots : farName ≠ "." ∧ farName ≠ ".." ∧ farName ≠ "" := by decide +kernel
    simp [advance, hroot, hdots, hlong]
  have hwalk (links : Nat) :
      tangle.walk .target [] ["far"] (links + 1) = .refused .nameTooLong := by
    rw [walk_of_atLink hlink, hnames, ite_self]
    exact walk_of_ended hend links
  refine ⟨by decide, ?_⟩
  rw [Store.place, if_neg (by decide)]
  exact hwalk 39

theorem removePath_exact_of_tangle :
    (∀ name ∈ ["inside", "loop", "gone"], ¬ tangle.LeadsTooFar ⟨.root, [name]⟩ ∧
      ∃ t, tangle.removePath ⟨.root, [name]⟩ = .ok (true, t) ∧ t.at? [name] = none ∧
        ∀ other, other ≠ [name] → t.at? other = tangle.at? other) ∧
      tangle.removePath ⟨.root, ["keep"]⟩ = .ok (false, tangle) ∧
      tangle.LeadsTooFar ⟨.root, ["far"]⟩ ∧ (⟨.root, ["far"]⟩ : Path).IsShort ∧
      tangle.removePath ⟨.root, ["far"]⟩ = .error (.refused .nameTooLong "/far") ∧
      tangle.HasLongLink ∧ Store.empty.NamesBareRoot ⟨.root, [".."]⟩ ∧
      ∃ why, Store.empty.removePath ⟨.root, [".."]⟩ = .error (.refused why "/..") := by
  have hnear : ∀ name ∈ ["keep", "inside", "loop", "gone"],
      ¬ tangle.LeadsTooFar ⟨.root, [name]⟩ ∧ ¬ tangle.NamesBareRoot ⟨.root, [name]⟩ := by
    decide
  have hlink : ∀ name ∈ ["inside", "loop", "gone"],
      tangle.place .itself ⟨.root, [name]⟩ = .entry [name] ∧ tangle.isLoose [name] ∧
        (⟨.root, [name]⟩ : Path).hasNul = false := by decide
  have hfar := tangle_leadsTooFar
  have hshort : (⟨.root, ["far"]⟩ : Path).IsShort := by decide
  have hbare : Store.empty.NamesBareRoot ⟨.root, [".."]⟩ := by decide
  obtain ⟨-, hrefused, hlong, -⟩ := removePath_exact tangle ⟨.root, ["far"]⟩
  obtain ⟨-, -, -, hroot⟩ := removePath_exact Store.empty ⟨.root, [".."]⟩
  refine ⟨fun name hin => ?_, ?_, hfar, hshort, hrefused hfar, hlong hfar hshort, hbare,
    hroot hbare⟩
  · obtain ⟨hn, hnotroot⟩ := hnear name (List.mem_cons_of_mem _ hin)
    obtain ⟨hpl, hloose, hnul⟩ := hlink name hin
    have hnames := strikes_iff.mp ⟨hnul, hpl, hloose⟩
    obtain ⟨b, t, hr, hexact⟩ := (removePath_exact tangle ⟨.root, [name]⟩).1 hn hnotroot
    obtain rfl : b = true := hexact.answer.mpr ⟨[name], hnames⟩
    exact ⟨hn, t, hr, hexact.only _ hnames.1 hnames.2⟩
  · obtain ⟨hn, hnotroot⟩ := hnear "keep" (by simp)
    obtain ⟨b, t, hr, hexact⟩ := (removePath_exact tangle ⟨.root, ["keep"]⟩).1 hn hnotroot
    have hstay : tangle.place .itself ⟨.root, ["keep"]⟩ = .entry ["keep"] ∧
        tangle.isLoose ["keep"] = false := by decide
    obtain rfl : b = false := by
      rw [← Bool.not_eq_true, hexact.answer]
      rintro ⟨loc, hnames, hremovable⟩
      cases hnames.2.1.symm.trans hstay.1
      rw [isLoose_iff_isRemovable.mpr hremovable] at hstay
      cases hstay.2
    rw [hr, hexact.otherwise rfl]

end Scaffold.Store
