/-
Which tokens of escaped text begin or stop inside an entity.

Text is escaped before it is scanned, so every rule sees entities for
special characters. From a gateway each token leads to a gateway, unless
it is one of an own rule that cuts an entity (`gateway_of_lexed`). So a
scan comes to places inside entities only behind their ampersand and
before their semicolon, as long as no own rule takes it elsewhere
(`mayCut_of_path`). There a token with a label has an end only by a listed
word or a comment delimiter that looks like part of an entity
(`tokenize_entities`). The known languages have none of these; a
configured one may (`severs_of_delimiter`).
-/
import Highlight.Proofs.Entity.Standard
import Highlight.Proofs.Language.Configured

namespace Highlight

open Html (escape IsGateway CutsWord CutsDelimiter)
open Text (restAt)

-- ========================================================== vocabulary

namespace Scan

/-- The token begins or stops strictly inside an entity of the escaped
source. -/
def Severs (source : Text) (t : Token) : Prop :=
  InEntity source t.start.offset ∨ InEntity source t.stop.offset

end Scan

namespace Spec

open Scan (InEntity Lexed MadeBy Severs)

/-- The token begins or stops inside an entity because of an own rule of
the language, whose pattern can match that way. -/
def CutByRule (s : Spec) (rules : List Rule) (source : Text) (t : Token) :
    Prop :=
  Severs source t ∧ ∃ own ∈ s.rules, ∃ rule, own.Anchors rule ∧ rule.Cuts
    ∧ MadeBy rules (escape source) rule t

/-- A look at the language tells that it cuts no entity. -/
def isWhole (s : Spec) : Bool :=
  s.rules.all (fun r => r.opening.anchor.toOption.all
      fun p => (r.withOpening p).isWhole)
    && s.wordLists.all (·.all fun w => ¬ CutsWord w)
    && s.commentDelimiter.all fun d => ¬ CutsDelimiter d

variable {spec : Spec} {language : String} {rules : List Rule}
  {source : Text} {o e : Nat} {t : Token} {ts : List Token}

-- ==================================================== whole languages

theorem not_cutByRule_of_isWhole (h : spec.isWhole) :
    ¬ spec.CutByRule rules source t := by
  simp only [isWhole, Bool.and_eq_true, List.all_eq_true] at h
  rintro ⟨-, own, hown, rule, ⟨p, hp, -, rfl⟩, hcuts, -⟩
  have hwhole := h.1.1 own hown
  rw [hp] at hwhole
  exact Rule.not_cuts_of_isWhole hwhole hcuts

theorem not_mayCut_of_isWhole (h : spec.isWhole) (text : Text) :
    ¬ spec.MayCut text := by
  simp only [isWhole, Bool.and_eq_true, List.all_eq_true,
    decide_eq_true_eq] at h
  intro hcut
  cases hcut with
  | word hws hw hcut => exact h.1.2 _ hws _ hw hcut
  | comment hd _ hcut =>
      have hnot := h.2
      rw [hd] at hnot
      exact of_decide_eq_true hnot hcut

theorem isWhole_builtins :
    ∀ spec ∈ Language.builtins.map Prod.snd, spec.isWhole := by
  decide +kernel

-- ============================================================= one step

/-- From a gateway a token leads to a gateway, unless an own rule makes it
cut an entity. -/
theorem gateway_of_lexed (hc : spec.compile language = .ok rules)
    (ho : IsGateway source o) (ht : Lexed rules (escape source) o t) :
    spec.CutByRule rules source t
      ∨ (IsGateway source t.stop.offset
        ∧ (t.label.isSome → Severs source t → spec.MayCut t.text)) := by
  obtain ⟨blank, own, standard, rfl, hblank, hown, hstandard⟩ :=
    exists_of_compile hc
  obtain ⟨k, -, hle, heq⟩ := ht.bounds
  have hstop : t.stop.offset ≤ (escape source).length := by
    rw [heq]
    exact hle
  cases ht with
  | @matched k n m rule h hn hm =>
      have hfrom {p : Text × Option String}
          (hp : p ∈ (blankPattern, none) :: spec.standard)
          (hr : Standard p rule) :
          IsGateway source (o + m)
            ∧ (rule.label.isSome
              → InEntity source o ∨ InEntity source (o + m)
              → spec.MayCut (Text.slice (escape source) o (o + m))) := by
        have hpass := passes_of_standard hp hr ho hn h.matches_here hm
        exact ⟨hpass.gateway, fun hlabel hin => hpass.cause hin hlabel⟩
      rcases List.mem_append.1 (List.mem_of_getElem? h.rule_eq)
        with hr | hr
      · rcases List.mem_cons.1 hr with rfl | hr
        · exact Or.inr (hfrom List.mem_cons_self hblank)
        · obtain ⟨own, hmem, hanchors⟩ := exists_of_mem_right hown hr
          by_cases hsplit :
              Severs source (Scan.tokenAt (escape source) rule.label o (o + m))
          · have hcuts :=
              Scan.cuts_of_extends ho hn h.matches_here hm hsplit
            exact Or.inl ⟨hsplit, own, hmem, rule, hanchors, hcuts, k, n, m,
              h, hn, hm, rfl⟩
          · refine Or.inr ⟨?_, fun _ hs => absurd hs hsplit⟩
            exact (Scan.isSeam_of_not_inEntity hstop
              fun hin => hsplit (Or.inr hin)).isGateway
      · obtain ⟨p, hp, hr⟩ := exists_of_mem_right hstandard hr
        exact Or.inr (hfrom (List.mem_cons_of_mem _ hp) hr)
  | unmatched h hlt =>
      -- the run of word characters is among the rules, and matches nowhere
      have hrun : (wordRunPattern, none) ∈ spec.standard :=
        List.mem_append_right _ (List.mem_singleton_self _)
      obtain ⟨r, hr, q, hq, p, hanchor, -, rfl⟩ :=
        exists_of_mem_left hstandard hrun
      have hnode := node_of_fixed (n := .wordRun) (by decide) hq hanchor
      have hnone := h _ (List.mem_append_right _ hr)
      exact Or.inr ⟨Scan.gateway_of_no_wordRun hnode hlt hnone,
        fun hlabel => by cases hlabel⟩

-- ============================================================ whole runs

/-- Along a path every end inside an entity is that of a listed word or of
a comment, from a gateway until an own rule cuts an entity. -/
theorem mayCut_of_path (hc : spec.compile language = .ok rules)
    (ho : IsGateway source o) (h : Scan.Path rules (escape source) o ts e) :
    ∀ t ∈ ts, t.label.isSome → Severs source t →
      (∃ u ∈ ts, u.start.offset ≤ t.start.offset
        ∧ spec.CutByRule rules source u) ∨ spec.MayCut t.text := by
  induction h with
  | nil o => exact fun t ht => by cases ht
  | @cons o e v ts hv hpath ih =>
      intro t ht hlabel hsplit
      rcases gateway_of_lexed hc ho hv with hcut | ⟨hstop, hmay⟩
      · refine Or.inl ⟨v, List.mem_cons_self, ?_, hcut⟩
        rw [hv.start_offset]
        exact (Scan.Path.cons hv hpath).le_start ht
      · rcases List.mem_cons.1 ht with rfl | ht
        · exact Or.inr (hmay hlabel hsplit)
        · refine (ih hstop t ht hlabel hsplit).imp_left ?_
          rintro ⟨u, hu, hle, hcut⟩
          exact ⟨u, List.mem_cons_of_mem _ hu, hle, hcut⟩

end Spec

-- ========================================================== the result

/-- With a registry that a configuration made, a token with a label that
begins or stops strictly inside an entity of the escaped source is a
listed word or a comment whose word or delimiter looks like part of an
entity, unless it or a token before it does so because of an own rule of
the language, whose pattern can match that way. No known language has such
tokens. -/
theorem tokenize_entities (t : Config.Table) (log : List String)
    (made : Option Registry) (name : String) (rules : List Rule)
    (source : Text) (ts : List Token)
    (ht : Config.registry? t = (log, .ok made))
    (hrules : (made.getD .default).get? name = some rules)
    (hts : tokenize rules (escape source) = .ok ts) :
    ∃ spec, (made.getD .default).specs.lookup name = some spec
      ∧ ∀ tok ∈ ts, tok.label.isSome → Scan.Severs source tok →
        spec ∉ Language.builtins.map Prod.snd
          ∧ ((∃ cut ∈ ts, cut.start.offset ≤ tok.start.offset
              ∧ spec.CutByRule rules source cut)
            ∨ spec.MayCut tok.text) := by
  have hbuilt := Registry.isBuilt_of_registry? (congrArg Prod.snd ht)
  obtain ⟨spec, hspec, hcompile⟩ := Registry.exists_of_get? hbuilt hrules
  refine ⟨spec, hspec, fun tok htok hlabel hsplit => ?_⟩
  have hstart : Html.IsSeam [] source 0 := ⟨0, Nat.zero_le _, rfl⟩
  have hcause := Spec.mayCut_of_path hcompile hstart.isGateway
    (Scan.tokenize_ok_iff.1 hts) tok htok hlabel hsplit
  refine ⟨fun hknown => ?_, hcause⟩
  have hwhole := Spec.isWhole_builtins spec hknown
  rcases hcause with ⟨cut, -, -, hcut⟩ | hmay
  · exact Spec.not_cutByRule_of_isWhole hwhole hcut
  · exact Spec.not_mayCut_of_isWhole hwhole _ hmay

/-- The table of a language with comments behind a delimiter. -/
def Spec.commentTable (delimiter : String) : Config.Table :=
  [("comment_delimiter", .string delimiter)]

/-- Comments behind a hash sign leave entities whole. -/
theorem tokenize_entities_hash :
    ∃ log r rules ts, Config.registry? [("languages", .table
          [("asm", .table (Spec.commentTable "#"))])] = (log, .ok (some r))
      ∧ r.get? "asm" = some rules
      ∧ tokenize rules (escape "1<x # &".toList) = .ok ts
      ∧ (∃ tok ∈ ts, tok.label.isSome)
      ∧ ∀ tok ∈ ts, tok.label.isSome →
        ¬ Scan.Severs "1<x # &".toList tok := by
  have hrun : ((Spec.ofTable "asm" (Spec.commentTable "#")).toOption.bind
      fun spec => (spec.compile "asm").toOption.bind fun rules =>
        (tokenize rules (escape "1<x # &".toList)).toOption.map fun ts =>
          (spec.isWhole, ts.any (·.label.isSome))) = some (true, true) := by
    decide +kernel
  obtain ⟨log, r, spec, rules, ts, hr, hlookup, hget, hts, hlook⟩ :=
    Registry.exists_scan hrun
  obtain ⟨hwhole, hlabel⟩ := Prod.mk.inj hlook
  refine ⟨log, r, rules, ts, hr, hget, hts, List.any_eq_true.1 hlabel,
    fun tok htok hsome hsplit => ?_⟩
  obtain ⟨spec', hspec', hall⟩ :=
    tokenize_entities _ log (some r) "asm" rules _ ts hr hget hts
  rw [Option.getD_some, hlookup] at hspec'
  cases hspec'
  rcases (hall tok htok hsome hsplit).2 with ⟨cut, -, -, hcut⟩ | hmay
  · exact Spec.not_cutByRule_of_isWhole hwhole hcut
  · exact Spec.not_mayCut_of_isWhole hwhole _ hmay

/-- A comment behind a semicolon begins where an entity ends. -/
theorem severs_of_delimiter :
    ∃ log r rules ts, Config.registry? [("languages", .table
          [("asm", .table (Spec.commentTable ";"))])] = (log, .ok (some r))
      ∧ r.get? "asm" = some rules
      ∧ tokenize rules (escape "a & b ; c".toList) = .ok ts
      ∧ ∃ tok ∈ ts, tok.label = some "comment"
        ∧ Scan.Severs "a & b ; c".toList tok := by
  have hrun : ((Spec.ofTable "asm" (Spec.commentTable ";")).toOption.bind
      fun spec => (spec.compile "asm").toOption.bind fun rules =>
        (tokenize rules (escape "a & b ; c".toList)).toOption.map fun ts =>
          ts.any fun tok =>
            tok.label = some "comment" ∧ tok.start.offset = 6)
      = some true := by
    decide +kernel
  obtain ⟨log, r, spec, rules, ts, hr, -, hget, hts, hlook⟩ :=
    Registry.exists_scan hrun
  obtain ⟨tok, htok, hcomment⟩ := List.any_eq_true.1 hlook
  obtain ⟨hlabel, hoffset⟩ := of_decide_eq_true hcomment
  refine ⟨log, r, rules, ts, hr, hget, hts, tok, htok, hlabel,
    Or.inl ?_⟩
  rw [hoffset]
  exact ⟨2, '&', rfl, by decide, by decide, by decide⟩

end Highlight
