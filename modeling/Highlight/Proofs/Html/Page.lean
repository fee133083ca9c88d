/-
Nothing of a source is lost on its way into a page: what stands in the
code of a page, with the marks taken off and the entities decoded, is the
source as it was read (`highlight_decodes`).

Three texts that can hold anything are put around the same marks: the
source, the name of a language and the title. Each is escaped, so none of
them holds a '<', and the code begins at the one place where a page says
so (`code?_page`).
-/
import Highlight.Language.Builtin
import Highlight.Proofs.Checked
import Highlight.Proofs.Escape.Text
import Highlight.Proofs.Html.Strip
import Highlight.Session.Output

namespace Highlight

namespace Html

-- ========================================================== vocabulary

/-- What stands before highlighted code. -/
def codeOpening : Text := "<code>".toList

/-- What stands behind it. -/
def codeClosing : Text := "</code>".toList

/-- The code of a page: what stands between the first mark that opens code
and the first one behind it that closes code. -/
def code? (html : Text) : Option Text :=
  (Text.cutAt? codeOpening html).bind fun (_, behind) =>
    (Text.cutAt? codeClosing behind).map Prod.fst

/-- Text with its entities read as the characters they stand for, from
left to right. -/
def unescape : Text → Text
  | '&' :: 'a' :: 'm' :: 'p' :: ';' :: t => '&' :: unescape t
  | '&' :: 'l' :: 't' :: ';' :: t => '<' :: unescape t
  | '&' :: 'g' :: 't' :: ';' :: t => '>' :: unescape t
  | c :: t => c :: unescape t
  | [] => []

end Html

/-- The highlighted text in what a session puts out. -/
def Settings.body? (s : Settings) (html : Text) : Option Text :=
  if s.lineNumbers || s.standalone then Html.code? html else some html

/-- Labels that can be read back, in all languages of a registry. -/
def Registry.IsLabelled (r : Registry) : Prop :=
  ∀ e ∈ r.rules, ∀ rule ∈ e.2, ∀ l ∈ rule.label, Html.IsLabel l

namespace Html

-- ============================================================== escaping

/-- An escaped character is read back in front of any rest. -/
theorem unescape_escapeChar_append (c : Char) (r : Text) :
    unescape (escapeChar c ++ r) = c :: unescape r := by
  unfold escapeChar
  split
  · next h => rw [h]; rfl
  · split
    · next h => rw [h]; rfl
    · split
      · next h => rw [h]; rfl
      · next h _ _ =>
        rw [List.singleton_append]
        rw [unescape]
        all_goals
          intros
          contradiction

/-- Escaping can be undone. -/
theorem unescape_escape (t : Text) : unescape (escape t) = t := by
  induction t with
  | nil => rfl
  | cons c t ih => rw [escape_cons, unescape_escapeChar_append, ih]

/-- Escaped text has none of the characters that marks are made of. -/
theorem not_mem_escape {x : Char} (hx : x = '<' ∨ x = '>') (t : Text) :
    x ∉ escape t := by
  intro h
  obtain ⟨c, -, hc⟩ := List.mem_flatMap.1 h
  by_cases hs : c ∈ specials
  · rcases special_cases hs with rfl | rfl | rfl <;>
      rcases hx with rfl | rfl <;> exact absurd hc (by decide)
  · rw [escapeChar_of_not_mem hs, List.mem_singleton] at hc
    rcases hx with rfl | rfl <;> exact hs (hc ▸ by decide)

/-- No tag begins inside an attribute. -/
theorem not_mem_escapeAttribute (t : Text) : '<' ∉ escapeAttribute t := by
  intro h
  obtain ⟨c, hc, hm⟩ := List.mem_flatMap.1 h
  split at hm
  · exact absurd hm (by decide)
  · rw [List.mem_singleton] at hm
    exact not_mem_escape (Or.inl rfl) t (hm ▸ hc)

-- ==================================================== the code of a page

variable {w highlighted : Text}

/-- Text without a '<' holds neither mark of code. -/
theorem avoids_codeOpening {s : Text} (h : '<' ∉ s) :
    Text.Avoids codeOpening s :=
  Text.avoids_of_not_mem h

/-- So the name of a language cannot look like the start of the code. -/
theorem avoids_languageAttribute (language : Option String) :
    Text.Avoids codeOpening (languageAttribute language) := by
  unfold languageAttribute
  split
  · exact trivial
  · exact trivial
  · next name _ =>
    refine (Text.Avoids.append (by decide) ?_).append (by decide)
    exact avoids_codeOpening (not_mem_escapeAttribute name.toList)

/-- The numbers of a gutter are made of digits. -/
theorem avoids_gutter (source : Text) :
    Text.Avoids codeOpening (gutter source) := by
  refine (Text.Avoids.append (by decide) ?_).append (by decide)
  refine Text.Avoids.join (by decide) fun t ht => ?_
  obtain ⟨i, -, rfl⟩ := List.mem_map.1 ht
  exact avoids_codeOpening (Text.not_mem_toString (by decide) (i + 1))

/-- What stands in a block before its code. -/
def blockHead (source : Text) (language : Option String)
    (lineNumbers : Bool) : Text :=
  "<pre class=\"highlight\"".toList ++ languageAttribute language
    ++ ['>'] ++ (if lineNumbers then gutter source else [])

/-- A block is a head, the highlighted code between its tags, and an end.
-/
theorem block_eq (highlighted source : Text) (language : Option String)
    (lineNumbers : Bool) :
    block highlighted source language lineNumbers
      = blockHead source language lineNumbers ++ (codeOpening
        ++ (highlighted ++ (codeClosing ++ "</pre>\n".toList))) := by
  unfold block blockHead codeOpening codeClosing
  simp only [List.append_assoc]

/-- The code is not begun before its place. -/
theorem avoids_blockHead (source : Text) (language : Option String)
    (lineNumbers : Bool) :
    Text.Avoids codeOpening (blockHead source language lineNumbers) := by
  unfold blockHead
  refine Text.Avoids.append ?_ ?_
  · exact (Text.Avoids.append (by decide)
      (avoids_languageAttribute language)).append (by decide)
  · split
    · exact avoids_gutter source
    · exact trivial

/-- What stands on a page before its block. -/
def pageHead (title : Text) : Text :=
  "<!DOCTYPE html>\n<html>\n<head>\n<meta charset=\"utf-8\">\n".toList
    ++ "<title>".toList ++ escape title ++ "</title>\n".toList
    ++ "<style>\n".toList ++ stylesheet.toList ++ "</style>\n".toList
    ++ "</head>\n<body>\n".toList

/-- A page is a head, its content and an end. -/
theorem page_eq (content title : Text) :
    page content title = pageHead title
      ++ (content ++ "</body>\n</html>\n".toList) := by
  unfold page pageHead
  simp only [List.append_assoc]

/-- The stylesheet has no tags. -/
theorem not_mem_stylesheet : '<' ∉ stylesheet.toList := by
  unfold stylesheet
  simp only [String.toList_append, List.mem_append, not_or]
  decide +kernel

/-- Nor does the title open the code. -/
theorem avoids_pageHead (title : Text) :
    Text.Avoids codeOpening (pageHead title) := by
  have htitle := avoids_codeOpening (not_mem_escape (Or.inl rfl) title)
  have hcolours := not_mem_stylesheet
  unfold pageHead
  -- the stylesheet is long, and only this is needed of it
  generalize stylesheet.toList = colours at hcolours ⊢
  have hstyle := avoids_codeOpening hcolours
  have hbefore : Text.Avoids codeOpening
      ("<!DOCTYPE html>\n<html>\n<head>\n<meta charset=\"utf-8\">\n".toList
        ++ "<title>".toList) := by
    decide +kernel
  have hbehind : Text.Avoids codeOpening
      ("</title>\n".toList ++ "<style>\n".toList) := by
    decide
  have hend : Text.Avoids codeOpening
      ("</style>\n".toList ++ "</head>\n<body>\n".toList) := by
    decide
  have hall := (hbefore.append htitle).append
    (hbehind.append (hstyle.append hend))
  simpa only [List.append_assoc] using hall

/-- No token with a clean label closes code. -/
theorem avoids_ofTokens {ts : List Token} (hts : ∀ t ∈ ts, IsClean t) :
    Text.Avoids codeClosing (ofTokens ts) := by
  have hplain {s : Text} (hs : '<' ∉ s) : Text.Avoids codeClosing s :=
    Text.avoids_of_not_mem hs
  induction ts with
  | nil => exact trivial
  | cons t ts ih =>
      rw [List.forall_mem_cons] at hts
      obtain ⟨ht, hts⟩ := hts
      refine Text.Avoids.append ?_ (ih hts)
      rcases h : t.shown? with _ | l
      · rw [ofToken_of_not_shown h]
        exact hplain ht.text
      · rw [ofToken_of_shown h]
        refine Text.Avoids.append (by decide) ?_
        refine (hplain (ht.shown h).2).append ?_
        refine Text.Avoids.append (by decide) ?_
        exact (hplain ht.text).append (by decide)

/-- The code between its two marks is found, if no mark of code stands
before it and none that closes code stands in it. -/
theorem code?_append {head : Text} (hhead : Text.Avoids codeOpening head)
    (hcode : Text.Avoids codeClosing highlighted) (r : Text) :
    code? (head ++ (codeOpening ++ (highlighted ++ (codeClosing ++ r))))
      = some highlighted := by
  unfold code?
  rw [Text.cutAt?_append hhead, Option.bind_some]
  dsimp only
  rw [Text.cutAt?_append hcode, Option.map_some]

end Html

-- ================================================== what a session puts out

namespace Settings

variable {s : Settings} {source highlighted : Text}

/-- The highlighted text is found in all forms of output. -/
theorem body?_wrapped (language : Option String) (source : Text)
    (h : Text.Avoids Html.codeClosing highlighted) :
    s.body? (s.wrapped language source highlighted) = some highlighted := by
  have hblock := Html.avoids_blockHead source language s.lineNumbers
  unfold body? wrapped
  by_cases hs : s.standalone
  · have hhead := (Html.avoids_pageHead s.title.toList).append hblock
    have hcode := Html.code?_append hhead h
      ("</pre>\n".toList ++ "</body>\n</html>\n".toList)
    rw [if_pos (by simp [hs]), if_pos hs, Html.page_eq, Html.block_eq]
    simpa only [List.append_assoc] using hcode
  · by_cases hn : s.lineNumbers
    · rw [if_pos (by simp [hn]), if_neg hs, if_pos hn, Html.block_eq]
      exact Html.code?_append hblock h _
    · rw [if_neg (by simp [hs, hn]), if_neg hs, if_neg hn]

/-- Something is put out in a language that was given. -/
theorem exists_of_highlight {made : String × Text}
    (h : s.highlight source = .ok made) :
    ∃ language, s.language = .word language
      ∧ s.highlightIn language source = .ok made := by
  unfold highlight at h
  split at h
  · cases h
  · next language hlanguage =>
    rcases hin : s.highlightIn language source with e | made'
    · rw [hin] at h
      cases h
    · rw [hin] at h
      cases h
      exact ⟨language, hlanguage, hin⟩

/-- The rules that are scanned with are those of a language. -/
theorem of_rules?_eq_some {language name : String} {rules : List Rule}
    (h : s.rules? language = some (name, rules)) :
    s.registry.canonicalName? language = some name
      ∧ s.registry.get? name = some rules := by
  obtain ⟨name', hname, h⟩ := Option.bind_eq_some_iff.1 h
  obtain ⟨rules', hget, h⟩ := Option.bind_eq_some_iff.1 h
  cases h
  exact ⟨hname, hget⟩

/-- Rules that are found by a name come from the registry, with its labels.
-/
theorem isLabel_of_rules? {language name : String} {rules : List Rule}
    (hlabels : s.registry.IsLabelled)
    (h : s.rules? language = some (name, rules)) :
    ∀ r ∈ rules, ∀ l ∈ r.label, Html.IsLabel l := by
  obtain ⟨es, es', hmem, -⟩ :=
    List.lookup_eq_some_iff.1 (of_rules?_eq_some h).2
  exact hlabels (name, rules) (by rw [hmem]; simp)

/-- What is put out for a source has highlighted text in it that says the
source, escaped if the settings say so. -/
theorem exists_body_of_highlightIn {language notes : String} {html : Text}
    (hescape : s.escape) (hlabels : s.registry.IsLabelled)
    (h : s.highlightIn language source = .ok (notes, html)) :
    ∃ body, s.body? html = some body
      ∧ Html.strip body = Html.escape source := by
  have hprepared : s.prepared source = Html.escape source := if_pos hescape
  have hplain := Html.not_mem_escape (Or.inl rfl) source
  unfold highlightIn at h
  split at h
  · cases h
    rw [hprepared]
    exact ⟨_, body?_wrapped none source (Text.avoids_of_not_mem hplain),
      Html.strip_of_not_mem hplain⟩
  · next name rules hrules =>
    obtain ⟨ts, hts, h⟩ := exists_of_bind h
    cases h
    rw [hprepared] at hts
    have hmem := isLabel_of_rules? hlabels hrules
    obtain ⟨hclean, hstrip⟩ :=
      Html.strip_ofTokens_of_tokenize hmem hplain hts
    exact ⟨_, body?_wrapped (some name) source (Html.avoids_ofTokens hclean),
      hstrip⟩

end Settings

-- ========================================================= the result

/-- Whatever the source, the language, the title and the form of the
output: if escaped output is made at all, the source can be read back from
the highlighted text in it. -/
theorem highlight_decodes (s : Settings) (source : Text) (notes : String)
    (html : Text) (hescape : s.escape) (hlabels : s.registry.IsLabelled)
    (h : s.highlight source = .ok (notes, html)) :
    ∃ body, s.body? html = some body
      ∧ Html.unescape (Html.strip body) = source := by
  obtain ⟨language, -, hin⟩ := Settings.exists_of_highlight h
  obtain ⟨body, hbody, hstrip⟩ :=
    Settings.exists_body_of_highlightIn hescape hlabels hin
  exact ⟨body, hbody, by rw [hstrip, Html.unescape_escape]⟩

/-- A page with a gutter around a comment that looks like code. -/
theorem highlight_decodes_css :
    ∃ s : Settings, s.escape ∧ s.lineNumbers ∧ s.standalone
      ∧ s.registry.IsLabelled
      ∧ ∃ notes html body,
        s.highlight "/*</code>&lt;\n*/".toList = .ok (notes, html)
          ∧ s.body? html = some body
          ∧ Html.unescape (Html.strip body)
            = "/*</code>&lt;\n*/".toList := by
  let registry : Registry :=
    ⟨[("css", Language.css)], [], [("css", Language.css.rules)]⟩
  let s : Settings :=
    { input := none, output := none, language := .word "css", registry,
      lineNumbers := true, standalone := true, escape := true,
      listLanguages := false, watch := false, debug := false }
  have hlabels : s.registry.IsLabelled := by
    show ∀ e ∈ registry.rules, ∀ rule ∈ e.2, ∀ l ∈ rule.label, Html.IsLabel l
    decide +kernel
  have h : (s.highlight "/*</code>&lt;\n*/".toList).toOption.isSome := by
    decide +kernel
  obtain ⟨⟨notes, html⟩, hmade⟩ := Option.isSome_iff_exists.1 h
  have hmade := eq_ok_of_toOption hmade
  exact ⟨s, rfl, rfl, rfl, hlabels, notes, html,
    (highlight_decodes s _ notes html rfl hlabels hmade).imp
      fun body hbody => ⟨hmade, hbody⟩⟩

end Highlight
