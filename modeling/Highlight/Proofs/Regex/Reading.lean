/-
Patterns that are put together from given words, and the trees that they
are read as.

A word is written with a backslash before every character that could mean
something else. So it is read as one place for each of its characters,
whatever stands behind it (`read_literal`), and no part of it begins a
group, ends one, or repeats anything. What the standard patterns add
around words is read step by step.

# Fragments

A fragment is a text that is read as the same items wherever it stands
(`Fragment`). A pattern that is one compiles to its items in a row, behind
an assertion of the start once it is anchored (`Pattern.node_of_anchor`).
-/
import Highlight.Regex.Pattern
import Highlight.Proofs.Checked
import Highlight.Proofs.Regex.Quoted

namespace Highlight.Regex

-- ========================================================== vocabulary

/-- The flags that change nothing about how a pattern is read. -/
def Flags.basic (unicode : Bool) : Flags := { unicode }

/-- A place for one character. -/
def Item.char (c : Char) : Item := .other (.char c)

/-- The text of a choice between words. -/
def choiceText (ws : List Text) : Text := Text.join ['|'] (ws.map literal)

/-- The state before a pattern is read. -/
def State.fresh (fs : Flags) : State where
  scope := { kind := .pattern, opened := 0, flags := fs }

/-- The state behind an anchor, in the group that the anchor governs. -/
def State.guarded (opened : Nat) : State where
  scope := { kind := .plain false, opened, flags := .basic true }
  outer := [((State.fresh (.basic true)).scope.add (.assertion .start))]

/-- The state when more items have been read and more groups are known. -/
def State.extended (s : State) (is : List Item) (k : Known) : State where
  scope := { s.scope with items := is.reverse ++ s.scope.items }
  outer := s.outer
  known := k

/-- A pattern is complete, with this tree and under these flags. -/
structure State.Completes (s : State) (n : Node) (fs : Flags) : Prop where
  outer : s.outer = []
  flags : s.scope.flags.settle = .ok fs
  awaited : ∀ e ∈ s.known.awaited, e.1 ≤ s.known.count
  node : n = .ofList s.scope.content
  sound : n.fault? fs.template = none
  near : n.looksFar = false

/-- Whether the text is read as these items in a pattern that has no groups
so far, alone or between parentheses. -/
def Fragment (t : Text) (is : List Item) (k : Known) : Prop :=
  ∀ (u : Bool) (s : State) (r : Text), s.scope.flags = .basic u →
    s.known = {} → s.outer.length ≤ 1 → r ≠ ['\\'] →
      s.read (t ++ r) = (s.extended is k).read r

-- =============================================================== steps

/-- Only a lone backslash is refused for what should follow it. -/
theorem settled_of_ne {r : Text} (h : r ≠ ['\\']) : settled r = .ok () :=
  if_neg h

/-- A character without a backslash is a lexeme, unless a lone backslash
follows. -/
theorem lexeme?_plain {r : Text} {c : Char} (hc : c ≠ '\\')
    (hr : r ≠ ['\\']) : lexeme? (c :: r) = .ok (some (.plain c), r) := by
  unfold lexeme?
  split
  · next h => cases h
  · next h =>
    cases h
    exact absurd rfl hc
  · next h =>
    cases h
    rw [settled_of_ne hr]
    rfl

namespace State

variable {s s' : State} {r r' : Text} {u : Bool} {c : Char}

/-- A reading that does not end here takes a step and goes on. -/
theorem read_eq_bind (hr : r ≠ [])
    (hend : r.head? = some ')' → s.outer ≠ []) :
    s.read r = s.step r >>= fun v => v.1.read v.2 := by
  rw [read, dif_neg fun hstop => hstop.elim hr fun hp => hend hp.1 hp.2]
  split
  · next hs =>
    rw [hs]
    rfl
  · next s' r' hs =>
    show s'.read r' = s.step r >>= fun v => v.1.read v.2
    rw [hs]
    rfl

/-- A step that succeeds goes on from where it leads. -/
theorem read_of_step (hr : r ≠ [])
    (hend : r.head? = some ')' → s.outer ≠ [])
    (h : s.step r = .ok (s', r')) : s.read r = s'.read r' := by
  rw [read_eq_bind hr hend, h]
  rfl

theorem read_nil (s : State) : s.read [] = .ok (s, []) := by
  rw [read, dif_pos (Or.inl rfl)]

/-- A character that no backslash precedes. -/
theorem step_plain (hfs : s.scope.flags = .basic u) (hc : c ≠ '\\')
    (hbar : c = '|' → s.hasBothBranches = false) (hr : r ≠ ['\\']) :
    s.step (c :: r) = s.stepPlain c (r.length + 1) r := by
  unfold step
  rw [if_neg, lexeme?_plain hc hr]
  · simp only [hfs]
    rfl
  · rintro ⟨hhead, hboth⟩
    rw [hbar (Option.some.inj hhead)] at hboth
    cases hboth

/-- A reading goes on behind a character that ends nothing. -/
theorem read_plain (hfs : s.scope.flags = .basic u)
    (hc : c ∉ ['\\', '|', ')']) (hr : r ≠ ['\\'])
    (h : s.stepPlain c (r.length + 1) r = .ok (s', r')) :
    s.read (c :: r) = s'.read r' := by
  simp only [List.mem_cons, List.not_mem_nil, or_false, not_or] at hc
  refine read_of_step (List.cons_ne_nil c r)
    (fun hp => absurd (Option.some.inj hp) hc.2.2) ?_
  rw [step_plain hfs hc.1 (fun hb => absurd hb hc.2.1) hr, h]

/-- A character behind a backslash. -/
theorem step_escaped {e : Escaped} (hfs : s.scope.flags = .basic u)
    (hr : r ≠ ['\\']) (he : escape false c r = .ok (e, r)) :
    s.step ('\\' :: c :: r) = (s.addEscaped e (r.length + 2) r.length).map
      fun s => (s, r) := by
  have hlex : lexeme? ('\\' :: c :: r) = .ok (some (.escaped c), r) := by
    show (settled r >>= fun _ => _) = _
    rw [settled_of_ne hr]
    rfl
  have hascii : s.scope.flags.ascii = false := by
    rw [hfs]
    rfl
  unfold step
  rw [if_neg (fun h => by cases h.1), hlex]
  show (escape s.scope.flags.ascii c r >>= _) = _
  rw [hascii, he]
  show (s.addEscaped e _ r.length >>= _) = _
  cases s.addEscaped e (r.length + 2) r.length <;> rfl

end State

-- =============================================================== words

/-- The nodes of the items that a word becomes. -/
theorem flatMap_nodes_char (w : Text) :
    (w.map Item.char).flatMap Item.nodes = w.map Node.char := by
  rw [List.flatMap_map]
  exact List.map_eq_flatMap.symm

/-- A special character behind a backslash stands for itself. -/
theorem escape_special {ascii : Bool} {c : Char} (r : Text)
    (h : isSpecial c) : escape ascii c r = .ok (.char c.toNat, r) := by
  have hmem : c ∈ specials := List.contains_iff_mem.1 h
  simp only [specials, List.mem_cons, List.not_mem_nil, or_false] at hmem
  rcases hmem with rfl | rfl | rfl | rfl | rfl | rfl | rfl | rfl | rfl
    | rfl | rfl | rfl | rfl | rfl | rfl | rfl | rfl | rfl | rfl | rfl
    | rfl | rfl | rfl | rfl <;> rfl

/-- Any other character stands for itself as it is. -/
theorem stepPlain_of_not_special {s : State} {c : Char} (start : Nat)
    (r : Text) (h : isSpecial c = false) :
    s.stepPlain c start r
      = .ok (s.add (.other (.one (.char s.scope.flags.fold c.toNat))), r)
      := by
  unfold State.stepPlain
  dsimp only
  split
  all_goals first
    | rfl
    | exact absurd h (by decide)

/-- The text of one character of a word. -/
theorem literal_cons (c : Char) (w : Text) :
    literal (c :: w)
      = (if isSpecial c then ['\\', c] else [c]) ++ literal w := rfl

/-- The first character of a word's text means nothing special. -/
theorem head?_literal_cons {w r : Text} {c d : Char} (hc : c ≠ '\\')
    (hs : isSpecial c) : (literal (d :: w) ++ r).head? ≠ some c := by
  rw [literal_cons]
  split
  · exact fun h => hc (Option.some.inj h).symm
  · next hd =>
    intro h
    cases h
    exact hd hs

/-- No word brings in a special character at its start. -/
theorem head?_literal_append {w r : Text} {c : Char} (hc : c ≠ '\\')
    (hs : isSpecial c) (hr : r.head? ≠ some c) :
    (literal w ++ r).head? ≠ some c := by
  cases w with
  | nil => exact hr
  | cons d w => exact head?_literal_cons hc hs

/-- No word leaves a lone backslash. -/
theorem literal_append_ne {w r : Text} (hr : r ≠ ['\\']) :
    literal w ++ r ≠ ['\\'] := by
  cases w with
  | nil => exact hr
  | cons d w =>
      rw [literal_cons]
      split
      · exact fun h => absurd (List.cons.inj h).2 (List.cons_ne_nil _ _)
      · next hd =>
        intro h
        rw [(List.cons.inj h).1] at hd
        exact hd (by decide)

/-- The first of some words, a bar, and the others. -/
theorem choiceText_cons_cons (w v : Text) (ws : List Text) (r : Text) :
    choiceText (w :: v :: ws) ++ r
      = literal w ++ '|' :: (choiceText (v :: ws) ++ r) := by
  unfold choiceText Text.join
  rw [List.map_cons, List.map_cons, List.intercalate_cons_cons,
    List.append_assoc, List.append_assoc]
  rfl

/-- One word needs no bar. -/
theorem choiceText_singleton (w r : Text) :
    choiceText [w] ++ r = literal w ++ r := by
  unfold choiceText Text.join
  rw [List.map_singleton, List.intercalate_singleton]

/-- Nor do words between bars leave one. -/
theorem choiceText_append_ne (w : Text) (ws : List Text) {r : Text}
    (hr : r ≠ ['\\']) :
    choiceText (w :: ws) ++ r ≠ ['\\'] := by
  cases ws with
  | nil =>
      rw [choiceText_singleton]
      exact literal_append_ne hr
  | cons v ws =>
      rw [choiceText_cons_cons]
      exact literal_append_ne fun h => by cases h

/-- Words between bars begin with no question mark. -/
theorem head?_choiceText (w : Text) (ws : List Text) {r : Text}
    (h : r.head? ≠ some '?') :
    (choiceText (w :: ws) ++ r).head? ≠ some '?' := by
  cases ws with
  | nil =>
      rw [choiceText_singleton]
      exact head?_literal_append (by decide) (by decide) h
  | cons v ws =>
      rw [choiceText_cons_cons]
      exact head?_literal_append (by decide) (by decide) (by simp)

namespace State

variable {s : State} {r : Text} {u : Bool}

/-- Each character of a word is one place. -/
theorem step_literal {c : Char} (hfs : s.scope.flags = .basic u)
    (hr : r ≠ ['\\']) :
    s.step (literal [c] ++ r) = .ok (s.add (.char c), r) := by
  have hadd : s.add (.other (.one (.char s.scope.flags.fold c.toNat)))
      = s.add (.char c) := by
    rw [hfs]
    rfl
  rw [literal_cons, literal_nil, List.append_nil]
  cases hc : isSpecial c with
  | true =>
      show s.step ('\\' :: c :: r) = _
      rw [step_escaped hfs hr (escape_special r hc)]
      exact congrArg (fun s => Except.ok (s, r)) hadd
  | false =>
      have hne : ∀ d, isSpecial d = true → c ≠ d := by
        rintro d hd rfl
        rw [hc] at hd
        cases hd
      show s.step (c :: r) = _
      rw [step_plain hfs (hne '\\' (by decide))
        (fun h => absurd h (hne '|' (by decide))) hr,
        stepPlain_of_not_special _ _ hc, hadd]

/-- A word is read as a place for each of its characters. -/
theorem read_literal (w : Text) (hfs : s.scope.flags = .basic u)
    (hr : r ≠ ['\\']) :
    s.read (literal w ++ r)
      = (s.extended (w.map .char) s.known).read r := by
  induction w generalizing s with
  | nil => rfl
  | cons c w ih =>
      have happ : literal (c :: w) ++ r
          = literal [c] ++ (literal w ++ r) := by
        rw [← List.append_assoc, ← literal_append]
        rfl
      have hne : literal [c] ++ (literal w ++ r) ≠ [] := by
        rw [literal_cons]
        split <;> exact List.cons_ne_nil _ _
      have hclose : (literal [c] ++ (literal w ++ r)).head? ≠ some ')' :=
        head?_literal_cons (by decide) (by decide)
      rw [happ, read_of_step hne (fun h => absurd h hclose)
        (step_literal hfs (literal_append_ne hr)), ih (s := s.add _) hfs]
      unfold extended add Scope.add
      rw [List.map_cons, List.reverse_cons, List.append_assoc]
      rfl

/-- The alternative that a word becomes. -/
theorem branch_extended {k : Known} (w : Text) (h : s.scope.items = []) :
    (s.extended (w.map .char) k).scope.branch = w.map Node.char := by
  unfold extended Scope.branch
  rw [h, List.append_nil, List.reverse_reverse, flatMap_nodes_char]

/-- Words between bars become the alternatives of a group. -/
theorem read_words {n : Nat} (w : Text) (ws : List Text)
    (hfs : s.scope.flags = .basic u) (hkind : s.scope.kind = .capture n)
    (hitems : s.scope.items = []) (hr : r ≠ ['\\']) :
    ∃ scope : Scope,
      s.read (choiceText (w :: ws) ++ r)
          = ({ s with scope } : State).read r
        ∧ scope.kind = .capture n ∧ scope.flags = .basic u
        ∧ scope.branches.reverse ++ [scope.branch]
          = s.scope.branches.reverse ++ (w :: ws).map (·.map Node.char) := by
  induction ws generalizing s w with
  | nil =>
      rw [choiceText_singleton]
      exact ⟨_, read_literal w hfs hr, hkind, hfs,
        congrArg (fun b => s.scope.branches.reverse ++ [b])
          (branch_extended (k := s.known) w hitems)⟩
  | cons v ws ih =>
      -- The bar finishes the branch of the first word, whatever branches
      -- there are already, and the other words begin a new one.
      have hrest := choiceText_append_ne v ws hr
      have hne : '|' :: (choiceText (v :: ws) ++ r) ≠ ['\\'] :=
        fun h => by cases h
      let t := s.extended (w.map .char) s.known
      let next : State := { s with scope := { s.scope with
        branches := w.map Node.char :: s.scope.branches, items := [] } }
      have hnext : t.nextBranch = next := by
        unfold nextBranch
        split
        · next h => cases hkind.symm.trans h
        · rw [branch_extended w hitems]
          rfl
      have hboth : t.hasBothBranches = false := by
        unfold hasBothBranches
        split
        · next h => cases hkind.symm.trans h
        · rfl
      have hbar : t.step ('|' :: (choiceText (v :: ws) ++ r))
          = .ok (t.nextBranch, _) :=
        step_plain hfs (by decide) (fun _ => hboth) hrest
      obtain ⟨scope, hread, hk, hf, hb⟩ := ih (s := next) v hfs hkind rfl
      refine ⟨scope, ?_, hk, hf, ?_⟩
      · rw [choiceText_cons_cons, read_literal w hfs hne,
          read_of_step (List.cons_ne_nil _ _) (fun h => by cases h) hbar,
          hnext, hread]
      · rw [hb, List.reverse_cons, List.append_assoc]
        rfl

end State

-- ============================================================== groups

/-- The alternatives that words make up. -/
def Node.words (ws : List Text) : Node :=
  .ofList (Node.ofBranches .exact false (ws.map (·.map Node.char)))

/-- A parenthesis without a question mark begins a numbered group. -/
theorem opening_capture {r : Text} (start : Nat) (h : r.head? ≠ some '?') :
    opening start r = .ok (.capture none, r) := by
  have haccept : accept? '?' r = .ok none := by
    unfold accept?
    split
    · rfl
    · next d r =>
      rw [if_neg fun hd => h (congrArg some hd)]
  unfold opening
  rw [haccept]
  rfl

/-- A question mark and a colon begin a group without a number. -/
theorem opening_plain {r : Text} (start : Nat) (h : r ≠ ['\\']) :
    opening start ('?' :: ':' :: r) = .ok (.plain .none .none, r) := by
  have haccept : accept? '?' ('?' :: ':' :: r) = .ok (some (':' :: r)) := by
    show (settled (':' :: r) >>= fun _ => _) = _
    rw [settled_of_ne fun h => by cases h]
    rfl
  unfold opening
  rw [haccept]
  show (lexeme? (':' :: r) >>= _) = _
  rw [lexeme?_plain (by decide) h]
  rfl

namespace State

variable {s : State} {r : Text} {u : Bool}

/-- A numbered group is entered while there is room for one. It has the
next number, and no width before it is closed. -/
theorem read_capture (hfs : s.scope.flags = .basic u)
    (hroom : s.outer.length < depthLimit) (hhead : r.head? ≠ some '?')
    (hr : r ≠ ['\\']) :
    s.read ('(' :: r)
      = ({ scope := { kind := .capture (s.known.count + 1),
                      opened := r.length + 1, flags := .basic u },
           outer := s.scope :: s.outer,
           known := { s.known with
             widths := s.known.widths ++ [none] } } : State).read r := by
  have hcount : (s.known.widths ++ [none]).length = s.known.count + 1 := by
    rw [List.length_append]
    rfl
  refine read_plain hfs (by decide) hr ?_
  show (opening (r.length + 1) r >>= fun v =>
    s.opened v.1 (r.length + 1) v.2.length >>= fun t => .ok (t, v.2)) = _
  rw [opening_capture _ hhead]
  show (State.push { s with known := { s.known with
      widths := s.known.widths ++ [none] } }
    (.capture (s.known.widths ++ [none]).length) _ _ >>= _) = _
  unfold push
  rw [if_neg (Nat.not_le.2 hroom), hfs, hcount]
  rfl

/-- A group without a number is entered. -/
theorem read_plain_group (hfs : s.scope.flags = .basic u)
    (hdepth : s.outer.length ≤ 1) (hr : r ≠ ['\\']) :
    s.read ('(' :: '?' :: ':' :: r)
      = ({ scope := { kind := .plain false, opened := r.length + 3,
                      flags := .basic u },
           outer := s.scope :: s.outer, known := s.known } : State).read r
      := by
  refine read_plain hfs (by decide) (fun h => by cases h) ?_
  show (opening (r.length + 3) ('?' :: ':' :: r) >>= fun v =>
    s.opened v.1 (r.length + 3) v.2.length >>= fun t => .ok (t, v.2)) = _
  rw [opening_plain _ hr]
  show (State.push s _ _ _ >>= _) = _
  unfold push
  rw [if_neg (by show ¬ 490 ≤ s.outer.length; omega), hfs]
  cases u <;> rfl

/-- A scope is left. -/
theorem read_close {parent : Scope} {outer : List Scope}
    (hfs : s.scope.flags = .basic u) (houter : s.outer = parent :: outer)
    (hr : r ≠ ['\\']) :
    s.read (')' :: r)
      = ({ scope := parent.add (closed s.scope s.known).1, outer,
           known := (closed s.scope s.known).2 } : State).read r := by
  obtain ⟨scope, _, known⟩ := s
  subst houter
  refine read_of_step (List.cons_ne_nil _ r)
    (fun _ => List.cons_ne_nil parent outer) ?_
  rw [step_plain hfs (by decide) (fun h => absurd h (by decide)) hr]
  rfl

/-- What a numbered group of some words leaves behind. -/
theorem closed_capture {scope : Scope} {n : Nat} {known : Known}
    {ws : List Text} (hkind : scope.kind = .capture n)
    (hfs : scope.flags = .basic u)
    (hbranches : scope.branches.reverse ++ [scope.branch]
      = ws.map (·.map Node.char)) :
    closed scope known
      = (.other (.group n (.words ws)),
        known.finish n (Node.words ws).width) := by
  have hcontent : Node.ofList scope.content = .words ws := by
    unfold Scope.content
    rw [hbranches, hfs]
    rfl
  unfold closed
  rw [hkind]
  dsimp only
  rw [hcontent]

/-- An edge of a word. -/
theorem read_boundary (hfs : s.scope.flags = .basic u) (hr : r ≠ ['\\']) :
    s.read ('\\' :: 'b' :: r)
      = (s.add (.assertion (.boundary false))).read r :=
  read_of_step (List.cons_ne_nil _ _)
    (fun h => absurd (Option.some.inj h) (by decide))
    ((step_escaped hfs hr rfl).trans rfl)

/-- A group of words. -/
theorem read_group (w : Text) (ws : List Text)
    (hfs : s.scope.flags = .basic u) (hknown : s.known = {})
    (hdepth : s.outer.length ≤ 1) (hr : r ≠ ['\\']) :
    s.read ('(' :: (choiceText (w :: ws) ++ ')' :: r))
      = (s.extended [.other (.group 1 (.words (w :: ws)))]
          { widths := [some (Node.words (w :: ws)).width] }).read r := by
  have hclose : ')' :: r ≠ ['\\'] :=
    fun h => absurd (List.cons.inj h).1 (by decide)
  have hhead : (')' :: r).head? ≠ some '?' :=
    fun h => absurd (Option.some.inj h) (by decide)
  have hroom : s.outer.length < depthLimit :=
    Nat.lt_of_le_of_lt hdepth (by decide)
  rw [read_capture hfs hroom (head?_choiceText w ws hhead)
    (choiceText_append_ne w ws hclose), hknown]
  generalize hopened : List.length _ + 1 = opened
  obtain ⟨scope, hread, hkind, hflags, hbranches⟩ :=
    read_words (u := u) (s := ⟨⟨.capture 1, opened, .basic u, [], []⟩,
      s.scope :: s.outer, ⟨[none], [], none, []⟩⟩) w ws rfl rfl rfl hclose
  refine hread.trans ?_
  rw [read_close hflags rfl hr, closed_capture hkind hflags hbranches]
  rfl

end State

-- =========================================================== fragments

/-- A delimiter and the rest of the line. -/
theorem fragment_comment (d : Text) :
    Fragment (literal d ++ ".*$".toList)
      (d.map .char ++ [.repeated (.span .greedy 0 none (.dot false)),
        .assertion .lastLineEnd]) {} := by
  rintro u ⟨⟨kind, opened, flags, branches, items⟩, outer, known⟩ r rfl rfl
    - hr
  rw [List.append_assoc, State.read_literal d rfl fun h => by cases h]
  show State.read _ ('.' :: '*' :: '$' :: r) = _
  rw [State.read_plain (u := u) rfl (by decide) (fun h => by cases h) rfl,
    State.read_plain (u := u) rfl (by decide) (fun h => by cases h) rfl,
    State.read_plain (u := u) rfl (by decide) hr rfl]
  unfold State.extended
  rw [List.reverse_append, List.append_assoc]
  rfl

/-- Any of some words, up to a word boundary. -/
theorem fragment_words (w : Text) (ws : List Text) :
    Fragment ('(' :: choiceText (w :: ws) ++ ")\\b".toList)
      [.other (.group 1 (.words (w :: ws))), .assertion (.boundary false)]
      { widths := [some (Node.words (w :: ws)).width] } := by
  intro u s r hfs hknown hdepth hr
  have hsplit : '(' :: choiceText (w :: ws) ++ ")\\b".toList ++ r
      = '(' :: (choiceText (w :: ws) ++ ')' :: '\\' :: 'b' :: r) := by
    rw [List.cons_append, List.cons_append, List.append_assoc]
    rfl
  rw [hsplit, State.read_group w ws hfs hknown hdepth (fun h => by cases h),
    State.read_boundary (s := s.extended _ _) hfs hr]
  rfl

-- ============================================================ the whole

/-- Behind an anchor a pattern is read in a group without a number. -/
theorem State.read_anchor {r : Text} (hr : r ≠ ['\\']) :
    (State.fresh (.basic true)).read ('^' :: '(' :: '?' :: ':' :: r)
      = (State.guarded (r.length + 3)).read r := by
  rw [read_plain (s := .fresh (.basic true)) rfl (by decide)
    (fun h => by cases h) rfl]
  exact read_plain_group (s := (State.fresh (.basic true)).add _) rfl
    (Nat.zero_le 1) hr

/-- What the group behind an anchor leaves of its items. -/
theorem State.closed_guarded (opened : Nat) (is : List Item) (k : Known) :
    closed ((State.guarded opened).extended is k).scope k
      = (.spliced (is.flatMap Item.nodes), k) := by
  have hcontent : ((State.guarded opened).extended is k).scope.content
      = is.flatMap Item.nodes := by
    show (is.reverse ++ []).reverse.flatMap Item.nodes = _
    rw [List.append_nil, List.reverse_reverse]
  unfold closed
  rw [hcontent]
  rfl

/-- A fragment behind an anchor is the anchor and its items. -/
theorem Fragment.read_anchored {t : Text} {is : List Item} {k : Known}
    (h : Fragment t is k) :
    ∃ s, (State.fresh (.basic true)).read
        ('^' :: '(' :: '?' :: ':' :: (t ++ [')'])) = .ok (s, [])
      ∧ s.outer = [] ∧ s.scope.flags = .basic true ∧ s.known = k
      ∧ s.scope.content = .assertion .start :: is.flatMap Item.nodes := by
  rw [State.read_anchor (append_parenthesis_ne t)]
  generalize (t ++ [')']).length + 3 = opened
  have hclose :=
    State.read_close (s := (State.guarded opened).extended is k) (r := [])
      rfl rfl (by decide)
  have hk : ((State.guarded opened).extended is k).known = k := rfl
  rw [hk, State.closed_guarded, State.read_nil] at hclose
  rw [h true (.guarded opened) [')'] rfl rfl (Nat.le_refl 1) (by decide),
    hclose]
  refine ⟨_, rfl, rfl, rfl, rfl, ?_⟩
  show Node.assertion .start :: (is.flatMap Item.nodes ++ []) = _
  rw [List.append_nil]

namespace State

variable {s : State} {n : Node} {fs : Flags}

/-- A reading with a result has come to the end of the text. -/
theorem result_eq_ok_iff {r : Text} :
    s.result r = .ok (n, fs) ↔ r = [] ∧ s.Completes n fs := by
  constructor
  · intro h
    unfold result at h
    split at h
    · cases h
    · next houter =>
      obtain ⟨fs', hfs, h⟩ := exists_of_bind h
      split at h
      · cases h
      · next hr =>
        split at h
        · cases h
        · next hawaited =>
          dsimp only at h
          split at h
          · cases h
          · next hsound =>
            split at h
            · cases h
            · next hnear =>
              cases h
              simp only [Bool.not_eq_true', Bool.not_eq_false,
                List.isEmpty_iff] at houter hr
              refine ⟨hr, houter, hfs, fun e he => ?_, rfl, hsound,
                eq_false_of_ne_true hnear⟩
              have := List.find?_eq_none.1 hawaited e he
              rwa [decide_eq_true_eq, Nat.not_lt] at this
  · rintro ⟨rfl, houter, hfs, hawaited, rfl, hsound, hnear⟩
    have hknown : s.known.awaited.find? (s.known.count < ·.1) = none := by
      rw [List.find?_eq_none]
      intro e he
      rw [decide_eq_true_eq, Nat.not_lt]
      exact hawaited e he
    simp only [result, houter, hfs]
    rw [hknown]
    dsimp only [bind, Except.bind]
    rw [hsound, hnear]
    rfl

end State

end Highlight.Regex

-- ============================================================= patterns

namespace Highlight.Pattern

open Regex

/-- What a pattern is compiled to is what its reading ends with. -/
theorem exists_of_compile {t : Text} {fs : Flags} {p : Pattern}
    (h : compile t fs = .ok p) :
    ∃ s, t ≠ ['\\'] ∧ (State.fresh fs).read t = .ok (s, [])
      ∧ p.text = t ∧ s.Completes p.node p.flags := by
  unfold compile at h
  split at h
  · next n fs' hparse =>
    cases h
    obtain ⟨_, hsettled, -⟩ := exists_of_bind hparse
    have ht : t ≠ ['\\'] := by
      rintro rfl
      cases hsettled
    obtain ⟨⟨s, r⟩, hread, hresult⟩ := exists_of_bind (of_settled hparse)
    obtain ⟨rfl, hcompletes⟩ := State.result_eq_ok_iff.1 hresult
    exact ⟨s, ht, hread, rfl, hcompletes⟩
  · cases h

/-- A text that is read to a complete pattern compiles. -/
theorem compile_of_completes {t : Text} {s : State} {n : Node}
    {fs gs : Flags} (ht : t ≠ ['\\'])
    (hread : (State.fresh fs).read t = .ok (s, []))
    (hs : s.Completes n gs) :
    compile t fs = .ok { text := t, flags := gs, node := n } := by
  have hparse : parse t fs = .ok (n, gs) := by
    unfold parse
    rw [settled_of_ne ht]
    show ((State.fresh fs).read t >>= fun v => v.1.result v.2) = _
    rw [hread]
    exact State.result_eq_ok_iff.2 ⟨rfl, hs⟩
  unfold compile
  rw [hparse]

/-- Without flags in front the anchor comes first. -/
theorem anchoredText_eq {t : Text} (h : afterFlagGroup? t = none) :
    anchoredText t = '^' :: '(' :: '?' :: ':' :: (t ++ [')']) := by
  have hrest : afterFlagGroups t = t := by
    rw [afterFlagGroups]
    split
    · rfl
    · next hr =>
      rw [h] at hr
      cases hr
  unfold anchoredText
  rw [hrest]
  dsimp only
  rw [Nat.sub_self]
  rfl

variable {t : Text} {is : List Item} {k : Known} {p q : Pattern}

/-- Compiled on its own, a fragment turns on nothing but the full
alphabet. -/
theorem of_compile_fragment (hfragment : Fragment t is k)
    (h : compile t .none = .ok q) :
    q.text = t ∧ q.flags = .basic true := by
  obtain ⟨s, -, hread, htext, hs⟩ := exists_of_compile h
  have hbody := hfragment false (.fresh .none) [] rfl rfl (Nat.zero_le 1)
    (by decide)
  rw [List.append_nil, hread, State.read_nil] at hbody
  cases hbody
  exact ⟨htext, (Except.ok.inj hs.flags).symm⟩

/-- Compiled with an anchor, a fragment is its items in a row behind an
assertion of the start. -/
theorem node_of_anchor (hfragment : Fragment t is k)
    (hflags : afterFlagGroup? t = none) (hne : is.flatMap Item.nodes ≠ [])
    (h : compile t .none = .ok q) (h' : q.anchor = .ok p) :
    p.node = .anchored (.ofList (is.flatMap Item.nodes)) := by
  obtain ⟨htext, hfs⟩ := of_compile_fragment hfragment h
  unfold anchor at h'
  rw [htext, hfs, anchoredText_eq hflags] at h'
  obtain ⟨s, -, hread, -, hs⟩ := exists_of_compile h'
  obtain ⟨s', hread', -, -, -, hcontent⟩ := hfragment.read_anchored
  rw [hread] at hread'
  cases hread'
  rw [hs.node, hcontent]
  obtain ⟨n, ns, hns⟩ := List.exists_cons_of_ne_nil hne
  rw [hns]
  rfl

end Highlight.Pattern
