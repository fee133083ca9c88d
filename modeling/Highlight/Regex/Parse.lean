/-
From the text of a pattern to its tree.

The text is read from left to right, one lexeme or group opening at a
time. Groups that are still open lie on a stack of scopes; each scope
holds its finished alternatives and the items of the one being read. A
closing parenthesis makes an item of the innermost scope and hands it to
the scope around it. The content of a group without number or flags of
its own becomes part of the sequence around it, but is repeated as one.

# What is known of groups

A reference needs to know whether its group exists and is closed. Names
have to be known where they are used; a number in a condition may be
that of a later group, so it is looked at again when the pattern is
complete.

# The order of faults

The first fault met on the way is reported. When the whole text has been
read, flags that exclude each other come first, then a parenthesis that
closes nothing, then numbers of groups that never came, then the
conditions on the finished tree, and last the reach of look-behinds.
-/
import Highlight.Regex.Escape
import Highlight.Regex.Opening

namespace Highlight.Regex

-- ============================================================== scopes

/-- What has been read, and whether it can be repeated. -/
inductive Item where
  | assertion (a : Assertion)
  | repeated (n : Node)
  /-- A group that is no more than its content. -/
  | spliced (ns : List Node)
  | other (n : Node)
deriving DecidableEq, Repr

/-- The nodes that an item adds to a sequence. -/
def Item.nodes : Item → List Node
  | .assertion a => [.assertion a]
  | .repeated n | .other n => [n]
  | .spliced ns => ns

/-- What a scope makes of its content. -/
inductive ScopeKind where
  | pattern
  /-- A group without a number, perhaps with flags of its own. -/
  | plain (flagged : Bool)
  | capture (number : Nat)
  | atomic
  /-- A look-around; the outermost one behind is marked. -/
  | look (behind negated outermost : Bool)
  /-- The first branch of a choice by a group. -/
  | present (number : Nat)
  /-- The second branch, after the first one. -/
  | absent (number : Nat) (present : Node)
deriving DecidableEq, Repr

structure Scope where
  kind : ScopeKind
  /-- Where the scope was opened, from the end of the pattern. -/
  opened : Nat
  /-- The flags in force. -/
  flags : Flags
  /-- The finished alternatives, the last one first. -/
  branches : List (List Node) := []
  /-- The items of the current alternative, the last one first. -/
  items : List Item := []
deriving DecidableEq, Repr

/-- What is known of the groups of a pattern so far. -/
structure Known where
  /-- The width of each group by number; an open group has none yet. -/
  widths : List (Option Width) := []
  names : List (Text × Nat) := []
  /-- While looking behind, how many groups there were before. -/
  lookBehind : Option Nat := none
  /-- Groups that conditions name by number, with the first place. -/
  awaited : List (Nat × Nat) := []
deriving DecidableEq, Repr

structure State where
  scope : Scope
  outer : List Scope := []
  known : Known := {}
deriving DecidableEq, Repr

/-- The extent to which letter case is ignored under these flags. -/
def Flags.fold (fs : Flags) : Fold :=
  if !fs.ignoreCase then .exact else if fs.ascii then .ascii else .unicode

namespace Scope

/-- The nodes of the current alternative. -/
def branch (s : Scope) : List Node :=
  s.items.reverse.flatMap Item.nodes

/-- The nodes of the whole scope. -/
def content (s : Scope) : List Node :=
  Node.ofBranches s.flags.fold s.flags.ascii
    (s.branches.reverse ++ [s.branch])

def add (s : Scope) (i : Item) : Scope :=
  { s with items := i :: s.items }

/-- Nothing has been read into the scope yet. -/
def isFresh (s : Scope) : Bool :=
  s.branches.isEmpty && s.items.isEmpty

end Scope

namespace Known

/-- The width of a closed group. -/
def width? (k : Known) (number : Nat) : Option Width :=
  if number = 0 then none else (k.widths[number - 1]?).join

/-- The number of groups begun so far. -/
def count (k : Known) : Nat := k.widths.length

/-- Inside a look-behind, only groups closed before it may be named. -/
def checkLookBehind (k : Known) (number fromEnd : Nat) :
    Except Refusal Unit :=
  match k.lookBehind with
  | none => .ok ()
  | some before =>
    if (k.width? number).isNone then refuse .openGroup fromEnd
    else if before < number then refuse .groupInSameLookBehind fromEnd
    else .ok ()

/-- Begins a group, under a name if it has one. The name's text ends one
character before the given place. -/
def begin (k : Known) (name : Option Text) (fromEnd : Nat) :
    Except Refusal Known :=
  let number := k.count + 1
  let k := { k with widths := k.widths ++ [none] }
  match name with
  | none => .ok k
  | some name =>
    match k.names.lookup name with
    | some earlier =>
      refuse (.takenName name number earlier) (fromEnd + name.length + 1)
    | none => .ok { k with names := k.names ++ [(name, number)] }

/-- Ends a group whose content has the given width. -/
def finish (k : Known) (number : Nat) (w : Width) : Known :=
  { k with widths := k.widths.set (number - 1) (some w) }

/-- Group numbers from here on are beyond every limit. -/
def limit : Nat := 1073741823

/-- The group that a condition names; its text ends one character before
the given place. -/
def conditionGroup (k : Known) (written : Text) (fromEnd : Nat) :
    Except Refusal (Nat × Known) :=
  let place := fromEnd + written.length + 1
  if Unicode.isIdentifier written then
    match k.names.lookup written with
    | some number => .ok (number, k)
    | none => refuse (.unknownName written) place
  else
    match wholeNumber? written with
    | none => refuse (.badName written) place
    | some number =>
      if number = 0 then refuse .groupZero place
      else if limit ≤ number then refuse (.noSuchGroup number) place
      else if (k.awaited.lookup number).isSome then .ok (number, k)
      else .ok (number, { k with awaited := k.awaited ++ [(number, place)] })

end Known

namespace State

def add (s : State) (i : Item) : State :=
  { s with scope := s.scope.add i }

/-- Scopes are nested no deeper than this. The compiler calls itself for
each of them, so the room that there is depends on its caller; this is
what is left where a configuration is read. -/
def depthLimit : Nat := 490

/-- Opens a scope inside the current one. -/
def push (s : State) (kind : ScopeKind) (opened : Nat) (flags : Flags) :
    Except Refusal State :=
  if depthLimit ≤ s.outer.length then .error .tooDeep
  else
    .ok { s with
      scope := { kind, opened, flags }
      outer := s.scope :: s.outer }

-- ============================================================= content

/-- Adds what an escape stands for. The backslash lies at `start`. -/
def addEscaped (s : State) (e : Escaped) (start fromEnd : Nat) :
    Except Refusal State :=
  let fs := s.scope.flags
  match e with
  | .char n => .ok (s.add (.other (.one (.char fs.fold n))))
  | .category c negated =>
    .ok (s.add (.other (.one (.ofCategory fs.ascii c negated))))
  | .assertion a => .ok (s.add (.assertion a))
  | .reference number =>
    if s.known.count < number then
      refuse (.noSuchGroup number) (start - 1)
    else
      match s.known.width? number with
      | none => refuse .openGroup start
      | some w => do
        s.known.checkLookBehind number fromEnd
        .ok (s.add (.other (.reference number fs.fold w)))

/-- Adds a reference to a group by name, which ends one character before
the given place. -/
def addReference (s : State) (name : Text) (fromEnd : Nat) :
    Except Refusal State :=
  let place := fromEnd + name.length + 1
  match s.known.names.lookup name with
  | none => refuse (.unknownName name) place
  | some number =>
    match s.known.width? number with
    | none => refuse .openGroup place
    | some w => do
      s.known.checkLookBehind number fromEnd
      .ok (s.add (.other (.reference number s.scope.flags.fold w)))

/-- Opens what follows a parenthesis at `start`. -/
def opened (s : State) (o : Opening) (start fromEnd : Nat) :
    Except Refusal State :=
  let fs := s.scope.flags
  match o with
  | .capture name => do
    let known ← s.known.begin name fromEnd
    { s with known }.push (.capture known.count) start fs
  | .plain on off =>
    let flagged := on != .none || off != .none
    s.push (.plain flagged) start (fs.within on off)
  | .atomic => s.push .atomic start fs
  | .look behind negated =>
    let outermost := behind && s.known.lookBehind.isNone
    let known :=
      if outermost then
        { s.known with lookBehind := some s.known.count }
      else s.known
    { s with known }.push (.look behind negated outermost) start fs
  | .conditional written => do
    let (number, known) ← s.known.conditionGroup written fromEnd
    known.checkLookBehind number fromEnd
    { s with known }.push (.present number) start fs
  | .reference name => s.addReference name fromEnd
  | .comment => .ok s
  | .flags on =>
    if s.outer.isEmpty && s.scope.isFresh then
      .ok { s with scope := { s.scope with flags := fs.union on } }
    else
      refuse .lateFlags start

-- ========================================================== repetition

/-- Repetition counts from here on are beyond every limit. -/
def countLimit : Nat := 4294967295

/-- A count of iterations, if it is written out. -/
def count? (ds : Text) : Except Refusal (Option Nat) :=
  if ds.isEmpty then .ok none
  else if maxDigits < ds.length then .error .longCount
  else if countLimit ≤ numeral 10 ds then .error .overflow
  else .ok (some (numeral 10 ds))

/-- The digits of the upper bound; without a comma it is the lower. -/
def upperDigits (lo r : Text) : Except Refusal (Text × Text) := do
  match ← accept? ',' r with
  | some r => some? Char.isDigit r.length r
  | none => .ok (lo, r)

/-- The bounds that two rows of digits stand for; none means no bound. -/
def boundsOf (lo hi : Text) (place : Nat) :
    Except Refusal (Nat × Option Nat) := do
  let least ← count? lo
  let most ← count? hi
  if most.any (· < least.getD 0) then refuse .boundsCrossed place
  else .ok (least.getD 0, most)

/-- The bounds in braces, from behind the opening one on; without a
closing brace there are none, and the brace stands for itself. -/
def bounds? (r : Text) :
    Except Refusal (Option (Nat × Option Nat) × Text) := do
  if r.head? = some '\x7d' then .ok (none, r)
  else
    let (lo, r₁) ← some? Char.isDigit r.length r
    let (hi, r₂) ← upperDigits lo r₁
    match ← accept? '\x7d' r₂ with
    | none => .ok (none, r)
    | some r₃ =>
      let b ← boundsOf lo hi r.length
      .ok (some b, r₃)

/-- The bounds that a sign of repetition stands for. -/
def quantifier? (c : Char) (r : Text) :
    Except Refusal (Option (Nat × Option Nat) × Text) :=
  match c with
  | '?' => .ok (some (0, some 1), r)
  | '*' => .ok (some (0, none), r)
  | '+' => .ok (some (1, none), r)
  | _ => bounds? r

/-- The last item, if it can be repeated; the sign lies at `place`. -/
def repeatable (s : State) (place : Nat) :
    Except Refusal (Node × List Item) :=
  match s.scope.items with
  | [] | .assertion _ :: _ => refuse .nothingToRepeat place
  | .repeated _ :: _ => refuse .repeatedRepeat place
  | item :: items => .ok (.ofList item.nodes, items)

/-- How eagerly to repeat, by the sign behind the bounds. -/
def appetite (r : Text) : Except Refusal (Appetite × Text) := do
  match ← accept? '?' r with
  | some r => .ok (.lazy, r)
  | none =>
    match ← accept? '+' r with
    | some r => .ok (.possessive, r)
    | none => .ok (.greedy, r)

/-- Repeats the last item as the sign says, from behind the sign on. -/
def addRepeat (s : State) (sign : Char) (r : Text) :
    Except Refusal (State × Text) := do
  match ← quantifier? sign r with
  | (none, r) =>
    .ok (s.add (.other (.one (.char s.scope.flags.fold sign.toNat))), r)
  | (some (least, most), r₁) =>
    let (n, items) ← s.repeatable (r.length + 1)
    let (a, r₂) ← appetite r₁
    let item := Item.repeated (Node.iterate a least most n)
    .ok ({ s with scope := { s.scope with items := item :: items } }, r₂)

-- ============================================================ branches

/-- Ends the current alternative and begins the next one. -/
def nextBranch (s : State) : State :=
  match s.scope.kind with
  | .present number =>
    let kind := ScopeKind.absent number (.ofList s.scope.branch)
    { s with scope := { s.scope with kind, items := [] } }
  | _ =>
    let branches := s.scope.branch :: s.scope.branches
    { s with scope := { s.scope with branches, items := [] } }

/-- The item that a scope leaves behind, and what is then known. -/
def closed (scope : Scope) (known : Known) : Item × Known :=
  let ns := scope.content
  let n := Node.ofList ns
  match scope.kind with
  | .pattern | .plain false => (.spliced ns, known)
  | .plain true => (.other (.flagged n), known)
  | .capture number =>
    (.other (.group number n), known.finish number n.width)
  | .atomic => (.other (.atomic n), known)
  | .look behind negated outermost =>
    let side := if behind then .behind n.width else .ahead
    let known :=
      if outermost then { known with lookBehind := none } else known
    (.other (.look side negated n), known)
  | .present number => (.other (.conditional number n .empty), known)
  | .absent number present =>
    (.other (.conditional number present n), known)

/-- Closes the innermost scope. -/
def close (s : State) : State :=
  match s.outer with
  | [] => s
  | parent :: outer =>
    let (item, known) := closed s.scope s.known
    { scope := parent.add item, outer, known }

-- =============================================================== steps

/-- Blank space, which verbose patterns skip. -/
def isSpace (c : Char) : Bool :=
  c == ' ' || ('\x09' ≤ c && c ≤ '\x0d')

/-- Reads on behind a character that may have a meaning of its own. -/
def stepPlain (s : State) (c : Char) (start : Nat) (r : Text) :
    Except Refusal (State × Text) :=
  let fs := s.scope.flags
  match c with
  | '|' => .ok (s.nextBranch, r)
  | ')' => .ok (s.close, r)
  | '[' => do
    let (set, r) ← bracketed fs.fold fs.ascii start r
    .ok (s.add (.other (.one set)), r)
  | '(' => do
    let (o, r) ← opening start r
    let s ← s.opened o start r.length
    .ok (s, r)
  | '?' | '*' | '+' | '\x7b' => s.addRepeat c r
  | '.' =>
    .ok (s.add (.other (.one (.dot fs.dotAll))), r)
  | '^' =>
    let a := if fs.multiLine then .lineStart else .start
    .ok (s.add (.assertion a), r)
  | '$' =>
    let a := if fs.multiLine then .lineEnd else .lastLineEnd
    .ok (s.add (.assertion a), r)
  | c => .ok (s.add (.other (.one (.char fs.fold c.toNat))), r)

/-- Whether the current choice by a group already has two branches. -/
def hasBothBranches (s : State) : Bool :=
  match s.scope.kind with
  | .absent _ _ => true
  | _ => false

/-- Reads the next lexeme and what belongs to it. -/
def step (s : State) (r : Text) : Except Refusal (State × Text) := do
  if r.head? = some '|' ∧ s.hasBothBranches then
    refuse .thirdBranch r.length
  else
    let start := r.length
    match ← lexeme? r with
    | (none, r) => .ok (s, r)
    | (some (.escaped c), r) =>
      let (e, r) ← escape s.scope.flags.ascii c r
      let s ← s.addEscaped e start r.length
      .ok (s, r)
    | (some (.plain c), r) =>
      if s.scope.flags.verbose && isSpace c then
        .ok (s, r)
      else if s.scope.flags.verbose && c == '#' then
        let r ← skipLine r
        .ok (s, r)
      else
        s.stepPlain c start r

-- ============================================== reading takes text away

theorem yields_upperDigits (lo r : Text) :
    Yields (upperDigits lo r) (Within r.length) := by
  refine (yields_accept? _ r).bind fun o ho => ?_
  split
  · exact fun v hv => Nat.le_trans (yields_some? _ _ _ v hv)
      (Nat.le_of_lt (ho _ rfl))
  · exact .ok (Nat.le_refl _)

theorem yields_bounds? (r : Text) :
    Yields (bounds? r) (Within r.length) := by
  unfold bounds?
  split
  · exact .ok (Nat.le_refl _)
  · refine (yields_some? _ _ r).bind fun v hv => ?_
    refine (yields_upperDigits v.1 v.2).bind fun w hw => ?_
    refine (yields_accept? _ w.2).bind fun o ho => ?_
    split
    · exact .ok (Nat.le_refl _)
    · next r₃ =>
      refine Yields.bind (P := fun _ => True) (fun _ _ => trivial)
        fun b _ => .ok ?_
      exact Nat.le_trans (Nat.le_of_lt (ho _ rfl)) (Nat.le_trans hw hv)

theorem yields_quantifier? (c : Char) (r : Text) :
    Yields (quantifier? c r) (Within r.length) := by
  unfold quantifier?
  split
  · exact .ok (Nat.le_refl _)
  · exact .ok (Nat.le_refl _)
  · exact .ok (Nat.le_refl _)
  · exact yields_bounds? r

theorem yields_appetite (r : Text) :
    Yields (appetite r) (Within r.length) := by
  refine (yields_accept? _ r).bind fun o ho => ?_
  split
  · exact .ok (Nat.le_of_lt (ho _ rfl))
  · refine (yields_accept? _ r).bind fun o ho => ?_
    split
    · exact .ok (Nat.le_of_lt (ho _ rfl))
    · exact .ok (Nat.le_refl _)

theorem yields_addRepeat (s : State) (sign : Char) (r : Text) :
    Yields (s.addRepeat sign r) (Within r.length) := by
  refine (yields_quantifier? sign r).bind fun v hv => ?_
  split
  · exact .ok hv
  · refine Yields.bind (P := fun _ => True) (fun _ _ => trivial)
      fun w _ => ?_
    refine (yields_appetite _).bind fun x hx => .ok ?_
    exact Nat.le_trans hx hv

theorem yields_stepPlain (s : State) (c : Char) (start : Nat) (r : Text) :
    Yields (s.stepPlain c start r) (Within r.length) := by
  unfold stepPlain
  dsimp only
  split
  · exact .ok (Nat.le_refl _)
  · exact .ok (Nat.le_refl _)
  · exact (yields_bracketed _ _ _ r).bind fun v hv => .ok hv
  · refine (yields_opening start r).bind fun v hv => ?_
    exact Yields.bind (P := fun _ => True) (fun _ _ => trivial)
      fun w _ => .ok hv
  · exact yields_addRepeat s _ r
  · exact yields_addRepeat s _ r
  · exact yields_addRepeat s _ r
  · exact yields_addRepeat s _ r
  · exact .ok (Nat.le_refl _)
  · exact .ok (Nat.le_refl _)
  · exact .ok (Nat.le_refl _)
  · exact .ok (Nat.le_refl _)

theorem yields_step (s : State) {r : Text} (hr : r ≠ []) :
    Yields (s.step r) fun v => v.2.length < r.length := by
  unfold step
  split
  · exact .refuse
  · intro v hv
    revert v hv
    refine Yields.bind (P := fun v => v.1 ≠ none ∧ v.2.length < r.length)
      ?_ fun v hv => ?_
    · intro v hv
      have := yields_lexeme? r v hv
      cases hl : v.1 with
      | some l => exact ⟨nofun, this.2 (by simp [hl])⟩
      | none =>
        exfalso
        cases r with
        | nil => exact hr rfl
        | cons c r =>
          unfold lexeme? at hv
          split at hv
          · simp at *
          · cases of_settled hv
            cases hl
          · cases of_settled hv
            cases hl
    · split
      · exact absurd rfl hv.1
      · refine (yields_escape _ _ _).bind fun w hw => ?_
        exact Yields.bind (P := fun _ => True) (fun _ _ => trivial)
          fun x _ => .ok (Nat.lt_of_le_of_lt hw hv.2)
      · split
        · exact .ok hv.2
        · split
          · exact (yields_skipLine _).bind fun w hw =>
              .ok (Nat.lt_of_le_of_lt hw hv.2)
          · exact fun w hw =>
              Nat.lt_of_le_of_lt (yields_stepPlain _ _ _ _ w hw) hv.2

-- ============================================================ the whole

/-- Reads on until the text ends or a parenthesis closes nothing. -/
def read (s : State) (r : Text) : Except Refusal (State × Text) :=
  if h : r = [] ∨ (r.head? = some ')' ∧ s.outer = []) then
    .ok (s, r)
  else
    match hs : s.step r with
    | .error e => .error e
    | .ok (s', r') =>
      have : r'.length < r.length :=
        s.yields_step (fun e => h (.inl e)) _ hs
      read s' r'
termination_by r.length

end State

-- ================================================= the finished pattern

/-- The name of an iteration in reports. -/
def Appetite.operator : Appetite → String
  | .greedy => "MAX_REPEAT"
  | .lazy => "MIN_REPEAT"
  | .possessive => "POSSESSIVE_REPEAT"

namespace Node

/-- What is wrong with a finished tree: an iteration in a template, or a
look-behind that is not of one width. -/
def fault? (template : Bool) : Node → Option Fault
  | .empty | .fail | .one _ | .assertion _ | .reference _ _ _ => none
  | .seq a b | .alt a b | .conditional _ a b =>
    a.fault? template <|> b.fault? template
  | .span a _ _ _ =>
    if template then some (.repeatInTemplate a.operator) else none
  | .loop a _ _ n =>
    if template then some (.repeatInTemplate a.operator)
    else n.fault? template
  | .group _ n | .flagged n | .atomic n | .look .ahead _ n =>
    n.fault? template
  | .look (.behind w) _ n =>
    if w.least ≠ w.most then some .variableLookBehind
    else n.fault? template

/-- A look-behind has to be shorter than this. -/
def reachLimit : Nat := 2147483648

/-- Whether a look-behind reaches back too far. -/
def looksFar : Node → Bool
  | .empty | .fail | .one _ | .assertion _ | .reference _ _ _
  | .span _ _ _ _ => false
  | .seq a b | .alt a b | .conditional _ a b => a.looksFar || b.looksFar
  | .loop _ _ _ n | .group _ n | .flagged n | .atomic n
  | .look .ahead _ n => n.looksFar
  | .look (.behind w) _ n => reachLimit ≤ w.least || n.looksFar

end Node

/-- The flags of a whole pattern: the full alphabet unless it is ASCII. -/
def Flags.settle (fs : Flags) : Except Refusal Flags :=
  if fs.locale then .error .flagsClash
  else if !fs.ascii then .ok { fs with unicode := true }
  else if fs.unicode then .error .flagsClash
  else .ok fs

/-- The tree and the flags that a reading ended with. -/
def State.result (s : State) (r : Text) : Except Refusal (Node × Flags) :=
  if !s.outer.isEmpty then
    refuse .openSubpattern s.scope.opened
  else do
    let flags ← s.scope.flags.settle
    if !r.isEmpty then
      refuse .strayParenthesis r.length
    else
      match s.known.awaited.find? (s.known.count < ·.1) with
      | some (number, place) => refuse (.noSuchGroup number) place
      | none =>
        let n := Node.ofList s.scope.content
        match n.fault? flags.template with
        | some f => .error (.fault f none)
        | none =>
          if n.looksFar then .error .farLookBehind else .ok (n, flags)

/-- The tree and the flags of a pattern. -/
def parse (t : Text) (flags : Flags) : Except Refusal (Node × Flags) := do
  settled t
  let start : State := { scope := { kind := .pattern, opened := 0, flags } }
  let (s, r) ← start.read t
  s.result r

end Highlight.Regex
