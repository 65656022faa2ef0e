/-
The order of the kinds does not matter.

A log is filled kind by kind, in the order in which the kinds were registered.  When
nothing that is put in has a brace, no marker begins in it.  None is completed by it
either, because it begins with a character that no marker has.  So the log is the
template with all markers exchanged in one pass; and as no marker is at the front of
another, that pass depends on which tokens there are and not on their order.  For the
same reasons no marker is left.
-/
import AnnotationLog.Proofs.Registry
import AnnotationLog.Proofs.Template.Verbatim

namespace AnnotationLog

/-! ### Tokens that can be put in in any order -/

/-- Tokens that neither hold a marker nor complete one. -/
structure Inert (tokens : List Token) : Prop where
  fits : ∀ token ∈ tokens, Fits tokens token.piece
  clear : ∀ token ∈ tokens, '{' ∉ token.new

namespace Inert

variable {tokens tokens' : List Token} {token : Token}

theorem marker (h : Inert tokens) (hmem : token ∈ tokens) : IsMarker token.piece :=
  (h.fits token hmem).marker token hmem

theorem piece_ne_nil (h : Inert tokens) : ∀ piece ∈ tokens.map Token.piece, piece ≠ [] := by
  intro piece hpiece
  obtain ⟨token, htoken, rfl⟩ := List.mem_map.mp hpiece
  exact (h.marker htoken).ne_nil

theorem mono (h : Inert tokens) (hsub : tokens' ⊆ tokens) : Inert tokens' where
  fits token hmem := (h.fits token (hsub hmem)).mono hsub
  clear token hmem := h.clear token (hsub hmem)

/-- No occurrence begins in what was put in. -/
theorem not_expands (h : Inert tokens) {m : Text} (hm : IsMarker m) (t : Text) :
    ¬ Expands tokens m t := by
  obtain ⟨body, rfl, -⟩ := hm
  rintro ⟨token, hmem, u, v, -, hin⟩
  exact Text.not_startsIn_of_notMem (h.clear token hmem) hin

/-- **One token after another is all of them in one pass.** -/
theorem foldl_replaceAll (h : Inert tokens) (t : Text) :
    tokens.foldl (fun text token => Text.replaceAll token.piece token.new text) t =
      substitute tokens t := by
  induction tokens using List.reverseRecOn with
  | nil => rw [List.foldl_nil, substitute_no_tokens]
  | append_singleton tokens last ih =>
      have hinit : Inert tokens := h.mono (List.subset_append_left _ _)
      have hmem : last ∈ tokens ++ [last] := by simp
      have hfit : Fits tokens last.piece := (h.fits last hmem).mono (List.subset_append_left _ _)
      rw [List.foldl_concat, ih hinit]
      exact replaceAll_substitute last hfit (h.marker hmem) (hinit.not_expands (h.marker hmem) t)

theorem substitute_token (h : Inert tokens) (hmem : token ∈ tokens) (rest : Text) :
    substitute tokens (token.piece ++ rest) = token.new ++ substitute tokens rest := by
  have hsub := AnnotationLog.substitute_token (h.fits token hmem) hmem [] rest
  rwa [List.append_nil] at hsub

/-- **The pass depends on which tokens there are, not on their order.** -/
theorem substitute_congr (h : Inert tokens) (hmem : ∀ token, token ∈ tokens ↔ token ∈ tokens')
    (t : Text) : substitute tokens t = substitute tokens' t := by
  have h' : Inert tokens' := h.mono fun token => (hmem token).mpr
  induction t using Text.pieces_induction h.piece_ne_nil with
  | nil => rw [substitute_nil, substitute_nil]
  | piece piece hpiece rest ih =>
      obtain ⟨token, htoken, rfl⟩ := List.mem_map.mp hpiece
      rw [h.substitute_token htoken, h'.substitute_token ((hmem token).mp htoken), ih]
  | char c rest hnot ih =>
      have hnone : ∀ token ∈ tokens, ¬ token.piece <+: c :: rest :=
        fun token htoken => hnot _ (List.mem_map_of_mem htoken)
      rw [substitute_of_none hnone,
        substitute_of_none fun token htoken => hnone token ((hmem token).mpr htoken), ih]

/-- **No marker is left after the pass.** -/
theorem not_infix_substitute (h : Inert tokens) (hmem : token ∈ tokens) (t : Text) :
    ¬ token.piece <:+: substitute tokens t := by
  obtain ⟨body, hpiece, hbody⟩ := h.marker hmem
  induction t using Text.pieces_induction h.piece_ne_nil with
  | nil => simp [substitute_nil, hpiece]
  | piece piece hp rest ih =>
      obtain ⟨other, hother, rfl⟩ := List.mem_map.mp hp
      rw [h.substitute_token hother, Text.infix_append_iff, not_or]
      refine ⟨?_, ih⟩
      rw [hpiece]
      exact Text.not_startsIn_of_notMem (h.clear other hother)
  | char c rest hnot ih =>
      have hnone : ∀ other ∈ tokens, ¬ other.piece <+: c :: rest :=
        fun other hother => hnot _ (List.mem_map_of_mem hother)
      rw [substitute_of_none hnone, List.infix_cons_iff, not_or]
      refine ⟨?_, ih⟩
      -- A marker that the pass completes would have stood in the template.
      have hbegins := hnone token hmem
      rw [hpiece, List.cons_prefix_cons] at hbegins ⊢
      rwa [prefix_substitute_iff (h.fits token hmem)
        (fun d hd => hpiece ▸ List.mem_cons_of_mem _ hd) hbody]

end Inert

/-! ### The tokens of a log -/

namespace BuiltinKind

/-- What a log of some texts puts in for a kind. -/
def token (sources : List (Path × Text)) (b : BuiltinKind) : Token where
  piece := b.marker
  new := b.passage (b.kind.findingsIn sources)

theorem eq_of_marker_prefix {b b' : BuiltinKind} (h : b.marker <+: b'.marker) : b = b' := by
  revert h
  cases b <;> cases b' <;> decide

theorem marker_apart_date (b : BuiltinKind) :
    ¬ dateMarker <+: b.marker ∧ ¬ b.marker <+: dateMarker := by
  cases b <;> decide

end BuiltinKind

/-- What a log of some texts puts in: the date, and the entries or the message of every kind. -/
def logTokens (kinds : List BuiltinKind) (sources : List (Path × Text)) (date : Date) :
    List Token :=
  dateToken date :: kinds.map (BuiltinKind.token sources)

section

variable {kinds : List BuiltinKind} {sources : List (Path × Text)} {date : Date} {token : Token}

theorem mem_logTokens : token ∈ logTokens kinds sources date ↔
    token = dateToken date ∨ ∃ b ∈ kinds, b.token sources = token := by
  rw [logTokens, List.mem_cons, List.mem_map]

theorem fits_logTokens {m : Text} (hm : ∀ c, isLeading c = true → c ∉ m) :
    Fits (logTokens kinds sources date) m where
  marker token hmem := by
    rcases mem_logTokens.mp hmem with rfl | ⟨b, -, rfl⟩
    · exact isMarker_date
    · exact isMarker_builtin b
  apart token hmem other hother hpiece := by
    rcases mem_logTokens.mp hmem with rfl | ⟨b, -, rfl⟩
    · rcases mem_logTokens.mp hother with rfl | ⟨b', -, rfl⟩
      · rfl
      · exact absurd hpiece b'.marker_apart_date.1
    · rcases mem_logTokens.mp hother with rfl | ⟨b', -, rfl⟩
      · exact absurd hpiece b.marker_apart_date.2
      · rw [BuiltinKind.eq_of_marker_prefix hpiece]
  first token hmem := by
    rcases mem_logTokens.mp hmem with rfl | ⟨b, -, rfl⟩
    · obtain ⟨c, more, hnew, hc⟩ := dateToken_first date
      exact ⟨c, more, hnew, hm c hc⟩
    · obtain ⟨c, more, hnew, hc⟩ := b.passage_first (b.kind.findingsIn sources)
      exact ⟨c, more, hnew, hm c hc⟩

theorem inert_logTokens
    (hbrace : ∀ b ∈ kinds, '{' ∉ b.passage (b.kind.findingsIn sources)) :
    Inert (logTokens kinds sources date) where
  fits token hmem := by
    rcases mem_logTokens.mp hmem with rfl | ⟨b, -, rfl⟩
    · exact fits_logTokens fun c hc => leading_notMem_dateMarker hc
    · exact fits_logTokens fun c hc => b.leading_notMem_marker hc
  clear token hmem := by
    rcases mem_logTokens.mp hmem with rfl | ⟨b, hb, rfl⟩
    · exact brace_notMem_date date
    · exact hbrace b hb

end

/-! ### Logs of registered kinds -/

/-- The log of some texts that were scanned for built-in kinds registered in the given order. -/
def registeredLog (order : List BuiltinKind) (sources : List (Path × Text)) (date : Date)
    (template : Text) : Except LogError Text :=
  let registered := Registry.empty.registerAll (order.map BuiltinKind.kind)
  let r := registered.1
  registered.2.map fun _ =>
    (compose r ((Session.forRegistry r).scanAll r sources) date template).1

/-- Different built-in kinds can all be registered. -/
theorem fit_builtin {order : List BuiltinKind} (hnodup : order.Nodup) :
    Registry.Fit { kinds := order.map BuiltinKind.kind } where
  kinds k hk := by
    obtain ⟨b, -, rfl⟩ := List.mem_map.mp hk
    exact b.fit
  markers := by
    have hinjective : Function.Injective BuiltinKind.marker := by
      intro b b' h
      exact BuiltinKind.eq_of_marker_prefix (h ▸ List.prefix_rfl)
    rw [Registry.markers, List.map_map]
    exact hnodup.map hinjective

theorem tokens_scanAll (order : List BuiltinKind) (sources : List (Path × Text)) (date : Date) :
    let r : Registry := { kinds := order.map BuiltinKind.kind }
    tokens r ((Session.forRegistry r).scanAll r sources) date = logTokens order sources date := by
  intro r
  rw [tokens, logTokens, List.cons_inj_right]
  refine List.ext_getElem? fun i => ?_
  have hkinds : r.kinds[i]? = order[i]?.map BuiltinKind.kind := List.getElem?_map
  rw [List.getElem?_map, List.getElem?_zipIdx, Nat.zero_add, hkinds, List.getElem?_map]
  cases hb : order[i]? with
  | none => rfl
  | some b =>
      rw [hb] at hkinds
      have hempty : (Session.forRegistry r).matched i = [] := Session.matched_sync _ _ _
      have hmatched : ((Session.forRegistry r).scanAll r sources).matched i =
          b.kind.findingsIn sources := by
        rw [Session.matched_scanAll hkinds, hempty, List.nil_append]
      simp only [Option.map_some, hmatched]
      rfl

theorem registeredLog_eq {order : List BuiltinKind} (hnodup : order.Nodup)
    {sources : List (Path × Text)} {date : Date}
    (hbrace : ∀ b ∈ order, '{' ∉ b.passage (b.kind.findingsIn sources)) (template : Text) :
    registeredLog order sources date template =
      .ok (substitute (logTokens order sources date) template) := by
  have hregistered : Registry.empty.registerAll (order.map BuiltinKind.kind) =
      ({ kinds := order.map BuiltinKind.kind }, .ok ()) :=
    Registry.registerAll_of_fit (fit_builtin hnodup)
  unfold registeredLog
  rw [hregistered]
  show Except.ok _ = _
  rw [compose_eq_foldl, tokens_scanAll, (inert_logTokens hbrace).foldl_replaceAll]

/-- **The order of registering kinds does not change a log.**  Let nothing that stands for one of
some different built-in kinds, in a log of any texts, hold a brace.  In whatever order the kinds are
registered, all of them are, and the log is the template in which the date and every kind was put in
at its markers in one pass.  No marker of theirs is left in it, and none of the date. -/
theorem registeredLog_perm {order : List BuiltinKind} (hnodup : order.Nodup)
    (sources : List (Path × Text)) (date : Date) (template : Text)
    (hbrace : ∀ b ∈ order, '{' ∉ b.passage (b.kind.findingsIn sources)) :
    let log := substitute (logTokens order sources date) template
    (∀ order', order'.Perm order → registeredLog order' sources date template = .ok log) ∧
      (∀ b ∈ order, ¬ b.marker <:+: log) ∧ ¬ dateMarker <:+: log := by
  intro log
  have hinert : Inert (logTokens order sources date) := inert_logTokens hbrace
  refine ⟨?_, ?_, ?_⟩
  · intro order' hperm
    have hbrace' : ∀ b ∈ order', '{' ∉ b.passage (b.kind.findingsIn sources) :=
      fun b hb => hbrace b (hperm.mem_iff.mp hb)
    have hmem : ∀ token, token ∈ logTokens order sources date ↔
        token ∈ logTokens order' sources date :=
      fun token => ((hperm.map _).cons _).mem_iff.symm
    rw [registeredLog_eq (hperm.nodup_iff.mpr hnodup) hbrace', ← hinert.substitute_congr hmem]
  · intro b hb
    exact hinert.not_infix_substitute (mem_logTokens.mpr (Or.inr ⟨b, hb, rfl⟩)) template
  · exact hinert.not_infix_substitute (mem_logTokens.mpr (Or.inl rfl)) template

/-- Annotations that end like markers, and a template in which braces stand in front of markers. -/
theorem registeredLog_perm_broken_braces : ∃ date : Date,
    let order : List BuiltinKind := [.todo, .caveat, .debt]
    let sources := [("a.R".toList, "# Todo: todos ".toList ++ ['}']),
      ("b.R".toList, "# Debt: debt ".toList ++ ['}'])]
    let template :=
      '{' :: " { todos }{ current_date{ debt } }{ current_date }".toList
    let log := "{ - [ ] todos }{ current_date### Debt 1: debt }\n\nLocation: `b.R` ".toList ++
      '}' :: "02/01/2024".toList
    (∀ b ∈ order, '{' ∉ b.passage (b.kind.findingsIn sources)) ∧
      registeredLog order sources date template = .ok log ∧
      registeredLog order.reverse sources date template = .ok log ∧
      (∀ b ∈ order, ¬ b.marker <:+: log) ∧ ¬ dateMarker <:+: log := by
  let date : Date :=
    { year := 2024, month := 1, day := 2, year_ge := by decide, year_le := by decide,
      month_ge := by decide, month_le := by decide, day_ge := by decide, day_le := by decide }
  refine ⟨date, ?_⟩
  intro order sources template log
  have hnodup : order.Nodup := by decide
  have hbrace : ∀ b ∈ order, '{' ∉ b.passage (b.kind.findingsIn sources) := by
    decide +kernel
  obtain ⟨hlog, hmarkers, hdate⟩ := registeredLog_perm hnodup sources date template hbrace
  have heq : substitute (logTokens order sources date) template = log := by decide +kernel
  rw [heq] at hlog hmarkers hdate
  exact ⟨hbrace, hlog _ (.refl _), hlog _ order.reverse_perm, hmarkers, hdate⟩

end AnnotationLog
