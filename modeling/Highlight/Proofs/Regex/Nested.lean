/-
How deep groups may be nested.

Each group that is still open takes up room, and there is room for so many
(`State.depthLimit`). A letter in that many groups is a pattern
(`Pattern.compile_nested`), and in one more it is refused wherever it
stands (`State.read_nested_deep`). As the anchor of a pattern is a group
around the whole of it, there is a pattern that compiles and has no anchor
(`Pattern.anchor_nested`).
-/
import Highlight.Proofs.Regex.Filled
import Highlight.Proofs.Regex.Hindrance

namespace Highlight.Regex

-- ========================================================== vocabulary

/-- The text of a letter in so many groups, one around the other. -/
def nestedText (n : Nat) : Text :=
  List.replicate n '(' ++ 'a' :: List.replicate n ')'

/-- The tree of a letter in so many groups, by the number of the outermost
one. -/
def Node.nested (first : Nat) : Nat → Node
  | 0 => .char 'a'
  | n + 1 => .group first (.nested (first + 1) n)

theorem nestedText_zero_append (r : Text) :
    nestedText 0 ++ r = 'a' :: r := rfl

/-- The parentheses of the outermost group. -/
theorem nestedText_succ_append (n : Nat) (r : Text) :
    nestedText (n + 1) ++ r = '(' :: (nestedText n ++ ')' :: r) := by
  unfold nestedText
  rw [List.replicate_succ, List.replicate_succ', List.append_assoc,
    List.append_assoc]
  simp only [List.cons_append, List.append_assoc, List.nil_append]

/-- No group of a nest begins with a question mark. -/
theorem head?_nestedText (n : Nat) (r : Text) :
    (nestedText n ++ r).head? ≠ some '?' := by
  cases n with
  | zero => exact fun h => absurd (Option.some.inj h) (by decide)
  | succ n =>
      rw [nestedText_succ_append]
      exact fun h => absurd (Option.some.inj h) (by decide)

theorem nestedText_ne_nil (n : Nat) : nestedText n ≠ [] := fun h =>
  List.cons_ne_nil _ _ (List.append_eq_nil_iff.1 h).2

theorem nestedText_append_ne (n : Nat) (r : Text) :
    nestedText n ++ r ≠ ['\\'] := by
  cases n with
  | zero => exact fun h => absurd (List.cons.inj h).1 (by decide)
  | succ n =>
      rw [nestedText_succ_append]
      exact fun h => absurd (List.cons.inj h).1 (by decide)

/-- There is nothing wrong with groups around a letter. -/
theorem Node.fault?_nested (template : Bool) (first n : Nat) :
    (Node.nested first n).fault? template = none := by
  induction n generalizing first with
  | zero => rfl
  | succ n ih => exact ih (first + 1)

theorem Node.looksFar_nested (first n : Nat) :
    (Node.nested first n).looksFar = false := by
  induction n generalizing first with
  | zero => rfl
  | succ n ih => exact ih (first + 1)

-- ============================================================ readings

namespace State

variable {s : State} {r : Text} {u : Bool} {n : Nat}

/-- A parenthesis is refused where there is no room for a group. -/
theorem read_capture_deep (hfs : s.scope.flags = .basic u)
    (hdeep : depthLimit ≤ s.outer.length) (hhead : r.head? ≠ some '?')
    (hr : r ≠ ['\\']) : s.read ('(' :: r) = .error .tooDeep := by
  have hstep : s.step ('(' :: r) = .error .tooDeep := by
    rw [step_plain hfs (by decide) (fun h => absurd h (by decide)) hr]
    show (opening (r.length + 1) r >>= fun v =>
      s.opened v.1 (r.length + 1) v.2.length >>= fun t => .ok (t, v.2)) = _
    rw [opening_capture _ hhead]
    show (push _ _ _ _ >>= _) = _
    unfold push
    rw [if_pos hdeep]
    rfl
  rw [read_eq_bind (List.cons_ne_nil _ r)
    (fun h => absurd (Option.some.inj h) (by decide)), hstep]
  rfl

/-- What a numbered group of one item leaves behind. -/
theorem closed_capture_single {scope : Scope} {number : Nat} {m : Node}
    {known : Known} (hkind : scope.kind = .capture number)
    (hbranches : scope.branches = []) (hitems : scope.items = [.other m]) :
    closed scope known
      = (.other (.group number m), known.finish number m.width) := by
  have hcontent : scope.content = [m] := by
    unfold Scope.content Scope.branch
    rw [hbranches, hitems]
    rfl
  unfold closed
  rw [hkind, hcontent]
  rfl

/-- Groups around a letter are read as one item if there is room for all
of them. -/
theorem read_nested (hfs : s.scope.flags = .basic u)
    (hroom : s.outer.length + n ≤ depthLimit) (hr : r ≠ ['\\']) :
    ∃ k, s.read (nestedText n ++ r)
        = (s.extended [.other (.nested (s.known.count + 1) n)] k).read r
      ∧ k.awaited = s.known.awaited := by
  -- From outside in: each group is entered, what it holds is read by the
  -- induction hypothesis, and its parenthesis closes it again.
  induction n generalizing s r with
  | zero =>
      refine ⟨s.known, ?_, rfl⟩
      rw [nestedText_zero_append, read_plain hfs (by decide) hr
        (stepPlain_of_not_special _ _ rfl), hfs]
      cases u <;> rfl
  | succ n ih =>
      have hclose : ')' :: r ≠ ['\\'] :=
        fun h => absurd (List.cons.inj h).1 (by decide)
      let t : State := {
        scope := { kind := .capture (s.known.count + 1),
                   opened := (nestedText n ++ ')' :: r).length + 1,
                   flags := .basic u }
        outer := s.scope :: s.outer
        known := { s.known with widths := s.known.widths ++ [none] } }
      have hcount : t.known.count = s.known.count + 1 :=
        List.length_append
      obtain ⟨k, hread, hawaited⟩ := ih (s := t) (r := ')' :: r) rfl
        (by show s.outer.length + 1 + n ≤ _; omega) hclose
      refine ⟨k.finish (s.known.count + 1)
        (Node.nested (s.known.count + 1 + 1) n).width, ?_, hawaited⟩
      rw [nestedText_succ_append, read_capture hfs (by omega)
          (head?_nestedText n _) (nestedText_append_ne n _),
        hread, read_close rfl rfl hr,
        closed_capture_single rfl rfl rfl, hcount]
      rfl

/-- One group too many is refused, however the groups before it were
entered. -/
theorem read_nested_deep (hfs : s.scope.flags = .basic u)
    (hroom : s.outer.length ≤ depthLimit)
    (hdeep : depthLimit < s.outer.length + n) :
    s.read (nestedText n ++ r) = .error .tooDeep := by
  induction n generalizing s r with
  | zero => exact absurd hdeep (Nat.not_lt.2 hroom)
  | succ n ih =>
      rw [nestedText_succ_append]
      rcases Nat.lt_or_ge s.outer.length depthLimit with hlt | hge
      · rw [read_capture hfs hlt (head?_nestedText n _)
          (nestedText_append_ne n _)]
        refine ih rfl hlt ?_
        show depthLimit < s.outer.length + 1 + n
        omega
      · exact read_capture_deep hfs hge (head?_nestedText n _)
          (nestedText_append_ne n _)

end State

end Highlight.Regex

-- ============================================================= patterns

namespace Highlight.Pattern

open Regex

variable {n : Nat}

/-- What a letter in so many groups is compiled to. -/
def nested (n : Nat) : Pattern where
  text := nestedText n
  flags := .basic true
  node := .nested 1 n

/-- A letter is a pattern in as many groups as there is room for. -/
theorem compile_nested (h : n ≤ State.depthLimit) :
    compile (nestedText n) .none = .ok (nested n) := by
  obtain ⟨k, hread, hawaited⟩ := State.read_nested (u := false) (r := [])
    (s := .fresh .none) rfl (by show 0 + n ≤ _; omega) (by decide)
  rw [List.append_nil, State.read_nil] at hread
  refine compile_of_completes ?_ hread ⟨rfl, rfl, ?_, rfl,
    Node.fault?_nested _ _ _, Node.looksFar_nested _ _⟩
  · have := nestedText_append_ne n []
    rwa [List.append_nil] at this
  · intro e he
    change e ∈ k.awaited at he
    rw [hawaited] at he
    cases he

/-- A pattern that takes all the room there is has none for an anchor. -/
theorem anchor_nested :
    (nested State.depthLimit).anchor = .error .tooDeep := by
  obtain ⟨m, hm⟩ : ∃ m, State.depthLimit = m + 1 := ⟨_, rfl⟩
  have hflags : afterFlagGroup? (nestedText State.depthLimit) = none := by
    have hhead := head?_nestedText m [')']
    rw [hm, ← List.append_nil (nestedText (m + 1)), nestedText_succ_append]
    exact afterFlagGroup?_of_second hhead
  have hne := append_parenthesis_ne (nestedText State.depthLimit)
  have hdeep : (State.fresh (.basic true)).read
      ('^' :: '(' :: '?' :: ':' :: (nestedText State.depthLimit ++ [')']))
        = .error .tooDeep := by
    rw [State.read_anchor hne]
    refine State.read_nested_deep rfl ?_ ?_
    · show 1 ≤ State.depthLimit
      decide
    · show State.depthLimit < 1 + State.depthLimit
      omega
  have hparse : parse (anchoredText (nestedText State.depthLimit))
      (.basic true) = .error .tooDeep := by
    rw [anchoredText_eq hflags]
    unfold parse
    rw [settled_of_ne fun h => absurd (List.cons.inj h).1 (by decide)]
    show ((State.fresh (.basic true)).read _ >>= _) = _
    rw [hdeep]
    rfl
  exact anchor_of_error (p := nested State.depthLimit) hparse

end Highlight.Pattern
