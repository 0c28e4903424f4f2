import TreeQuery.Proofs.Invocation.Outcome
import TreeQuery.Proofs.Pattern.Grammar

/-!
# Showing one node and showing all

The command that shows the only node takes the same operands and options as the one that shows all
nodes, and one option more. So whatever command line one of them accepts is read the same way by the
other, with or without that option (`read_single_of_read_eval`): each word moves what was read so far in
the same way (`word_withKind`), and the kind is only carried along.

The runs then go through the same stages, and differ only in what they make of the number of nodes
(`run_single_of_run_eval`).
-/

namespace TreeQuery

namespace Usage

open Pattern (map_eq_ok_iff bind_eq_ok_iff)

/-! ## Words -/

/-- What was read, with a kind. -/
def Draft.withKind (kind : Option Text) (draft : Draft) : Draft := { draft with kind }

/-- What was read, with a kind. -/
def Progress.withKind (kind : Option Text) (p : Progress) : Progress :=
  { p with draft := p.draft.withKind kind }

/-- No kind is waited for. -/
def Progress.KindFree (p : Progress) : Prop := ∀ t, p.pending ≠ some (.value .kind t)

theorem Verb.has_single {flag : Flag} (h : flag ≠ .kind) : single.has flag = eval.has flag := by
  cases flag <;> first | rfl | exact absurd rfl h

variable {p q : Progress} {draft draft' : Draft} {flag : Flag} {t : Text}

theorem Draft.setValue_withKind (hf : flag ≠ .kind) (h : draft.setValue flag t = .ok draft')
    (kind : Option Text) :
    (draft.withKind kind).setValue flag t = .ok (draft'.withKind kind) := by
  cases flag with
  | kind => exact absurd rfl hf
  | color | fuel | params =>
    obtain ⟨value, hvalue, rfl⟩ := map_eq_ok_iff.1 h
    exact map_eq_ok_iff.2 ⟨value, hvalue, rfl⟩
  | help | verbose | json => cases h

theorem Draft.setFlag_withKind (h : draft.setFlag flag = .ok draft') (kind : Option Text) :
    (draft.withKind kind).setFlag flag = .ok (draft'.withKind kind) := by
  cases flag with
  | verbose =>
    cases h
    rfl
  | json =>
    unfold setFlag at h
    dsimp only at h
    split at h
    · cases h
    · next hjson =>
      cases h
      exact if_neg hjson
  | help | color | fuel | kind | params => cases h

theorem Draft.addOperand_withKind (h : draft.addOperand .eval t = .ok draft')
    (kind : Option Text) :
    (draft.withKind kind).addOperand .single t = .ok (draft'.withKind kind) := by
  unfold addOperand at h
  split at h
  · cases h
  · next hempty =>
    cases h
    exact if_neg fun ⟨hfirst, _, ht⟩ => hempty ⟨hfirst, by decide, ht⟩

namespace Progress

theorem pending_of_settle {verb : Verb} (h : p.settle verb = .ok q) : q.pending = none := by
  unfold settle at h
  split at h
  · next hp =>
    cases h
    exact hp
  · obtain ⟨draft, -, rfl⟩ := map_eq_ok_iff.1 h
    rfl
  · cases h
  · obtain ⟨draft, -, rfl⟩ := map_eq_ok_iff.1 h
    rfl

theorem settle_withKind (hp : p.KindFree) (h : p.settle .eval = .ok q) (kind : Option Text) :
    (p.withKind kind).settle .single = .ok (q.withKind kind) := by
  obtain ⟨draft, pending, operandsOnly⟩ := p
  match pending with
  | none =>
    cases h
    rfl
  | some (.operand t) =>
    obtain ⟨draft', hdraft, rfl⟩ := map_eq_ok_iff.1 h
    exact map_eq_ok_iff.2 ⟨_, Draft.addOperand_withKind hdraft kind, rfl⟩
  | some (.value flag none) => cases h
  | some (.value flag (some t)) =>
    have hf : flag ≠ .kind := fun he => hp (some t) (by rw [he])
    obtain ⟨draft', hdraft, rfl⟩ := map_eq_ok_iff.1 h
    exact map_eq_ok_iff.2 ⟨_, Draft.setValue_withKind hf hdraft kind, rfl⟩

/-- Both commands go on the same way from `p` to `q`, whatever the kind is, and no kind is waited for
then. -/
def Agree (fromEval fromSingle : Progress → Except Fault Progress) (p q : Progress) : Prop :=
  fromEval p = .ok q → q.KindFree ∧
    ∀ kind : Option Text, fromSingle (p.withKind kind) = .ok (q.withKind kind)

theorem agree_operand (hp : p.KindFree) : Agree (operand .eval t) (operand .single t) p q := by
  intro h
  unfold operand at h
  split at h
  · cases h
  · next harity =>
    obtain ⟨settled, hs, rfl⟩ := map_eq_ok_iff.1 h
    refine ⟨by simp [KindFree], fun kind => ?_⟩
    have hcount : (p.withKind kind).operandCount = p.operandCount := rfl
    rw [operand, hcount]
    exact (if_neg harity).trans (map_eq_ok_iff.2 ⟨_, settle_withKind hp hs kind, rfl⟩)

theorem agree_option (hf : flag ≠ .kind) (attached : Option Text) (hp : p.KindFree) :
    Agree (option .eval flag attached) (option .single flag attached) p q := by
  intro h
  unfold option at h
  split at h
  · next t hv =>
    obtain ⟨settled, hs, h⟩ := bind_eq_ok_iff.1 h
    obtain ⟨draft, hd, h⟩ := bind_eq_ok_iff.1 h
    cases h
    refine ⟨?_, fun kind => ?_⟩
    · intro t'
      rw [pending_of_settle hs]
      simp
    · unfold option
      rw [hv]
      exact bind_eq_ok_iff.2 ⟨_, settle_withKind hp hs kind,
        bind_eq_ok_iff.2 ⟨_, Draft.setValue_withKind hf hd kind, rfl⟩⟩
  · next hv =>
    obtain ⟨settled, hs, rfl⟩ := map_eq_ok_iff.1 h
    refine ⟨by simpa [KindFree] using hf, fun kind => ?_⟩
    unfold option
    rw [hv]
    exact map_eq_ok_iff.2 ⟨_, settle_withKind hp hs kind, rfl⟩
  · cases h
  · next hv =>
    obtain ⟨settled, hs, h⟩ := bind_eq_ok_iff.1 h
    obtain ⟨draft, hd, h⟩ := bind_eq_ok_iff.1 h
    cases h
    refine ⟨?_, fun kind => ?_⟩
    · intro t'
      rw [pending_of_settle hs]
      simp
    · unfold option
      rw [hv]
      exact bind_eq_ok_iff.2 ⟨_, settle_withKind hp hs kind,
        bind_eq_ok_iff.2 ⟨_, Draft.setFlag_withKind hd kind, rfl⟩⟩

/-- An option of the one command is an option of the other. -/
theorem agree_known (found : Option Flag) (attached : Option Text) (hp : p.KindFree) :
    Agree
      (fun p => match found.filter Verb.eval.has with
        | some flag => p.option .eval flag attached
        | none => .error .unknownArgument)
      (fun p => match found.filter Verb.single.has with
        | some flag => p.option .single flag attached
        | none => .error .unknownArgument) p q := by
  cases found with
  | none => exact fun h => nomatch h
  | some flag =>
    intro h
    cases hhas : Verb.eval.has flag with
    | false =>
      rw [Option.filter_some_neg (by simp [hhas])] at h
      cases h
    | true =>
      have hf : flag ≠ .kind := by
        rintro rfl
        cases hhas
      -- The kind is no option of the first command, and all others are options of both.
      rw [Option.filter_some_pos hhas] at h
      rw [Option.filter_some_pos (by rwa [Verb.has_single hf])]
      exact agree_option hf attached hp h

theorem agree_longOption (hp : p.KindFree) : Agree (longOption .eval t) (longOption .single t) p q := by
  unfold longOption
  cases Text.cutAt? '=' t with
  | none => exact agree_known _ none hp
  | some cut => exact agree_known _ (some cut.2) hp

theorem agree_shortOptions (hp : p.KindFree) (t : Text) :
    Agree (shortOptions .eval · t) (shortOptions .single · t) p q := by
  induction t generalizing p with
  | nil =>
    intro h
    cases h
    exact ⟨hp, fun kind => rfl⟩
  | cons c rest ih =>
    intro h
    have hsame : (Flag.ofShort? c).filter Verb.single.has = (Flag.ofShort? c).filter Verb.eval.has := by
      fun_cases Flag.ofShort? c <;> rfl
    unfold shortOptions at h ⊢
    rw [hsame]
    cases hflag : (Flag.ofShort? c).filter Verb.eval.has with
    | none =>
      rw [hflag] at h
      cases h
    | some flag =>
      have hf : flag ≠ .kind := by
        rintro rfl
        cases (Option.filter_eq_some_iff.1 hflag).2
      rw [hflag] at h
      dsimp only at h ⊢
      by_cases hv : flag.takesValue
      · rw [if_pos hv] at h
        simp only [if_pos hv]
        exact agree_option hf _ hp h
      · rw [if_neg hv] at h
        simp only [if_neg hv]
        obtain ⟨next, hnext, h⟩ := bind_eq_ok_iff.1 h
        obtain ⟨hfree, hstep⟩ := agree_option hf none hp hnext
        obtain ⟨hq, hrest⟩ := ih hfree h
        exact ⟨hq, fun kind => bind_eq_ok_iff.2 ⟨_, hstep kind, hrest kind⟩⟩

theorem agree_plainWord (hp : p.KindFree) (t : Text) :
    Agree (plainWord .eval t) (plainWord .single t) p q := by
  obtain ⟨draft, pending, operandsOnly⟩ := p
  match pending with
  | none | some (.operand _) | some (.value _ (some _)) => exact agree_operand hp
  | some (.value flag none) =>
    intro h
    cases h
    refine ⟨?_, fun kind => rfl⟩
    rintro t' ⟨rfl, -⟩
    exact hp none rfl

/-- Each word moves what was read in the same way, with or without a kind. -/
theorem agree_word (hp : p.KindFree) (t : Text) :
    Agree (word .eval · t) (word .single · t) p q := by
  cases ho : p.operandsOnly with
  | true =>
    intro h
    obtain ⟨hq, hsingle⟩ := agree_operand hp ((if_pos ho).symm.trans h)
    exact ⟨hq, fun kind => (if_pos ho).trans (hsingle kind)⟩
  | false =>
    intro h
    have hkind (kind : Option Text) : (p.withKind kind).operandsOnly = false := ho
    simp only [word, ho, hkind, Bool.false_eq_true, if_false] at h ⊢
    split at h
    · cases h
      exact ⟨hp, fun kind => rfl⟩
    · exact agree_longOption hp h
    · exact agree_shortOptions hp _ h
    · exact agree_plainWord hp _ h

theorem agree_words (hp : p.KindFree) (words : List Text) :
    Agree (words.foldlM (word .eval) ·) (words.foldlM (word .single) ·) p q := by
  induction words generalizing p with
  | nil =>
    intro h
    cases h
    exact ⟨hp, fun kind => rfl⟩
  | cons t words ih =>
    intro h
    obtain ⟨next, hnext, h⟩ := bind_eq_ok_iff.1 (List.foldlM_cons.symm.trans h)
    obtain ⟨hfree, hstep⟩ := agree_word hp t hnext
    obtain ⟨hq, hrest⟩ := ih hfree h
    exact ⟨hq, fun kind =>
      List.foldlM_cons.trans (bind_eq_ok_iff.2 ⟨_, hstep kind, hrest kind⟩)⟩

end Progress

/-! ## Command lines -/

/-- What amounts to showing all nodes amounts to showing the only one. -/
theorem Draft.exists_of_invocation_eval {invocation : Invocation}
    (h : draft.invocation .eval = .ok invocation) :
    ∃ query json, invocation.command = .eval query json ∧
      ∀ kind : Option Text, (draft.withKind kind).invocation .single =
        .ok { invocation with command := .single query (kind.getD "node".toList) json } := by
  obtain ⟨operands, verbosity, json, color, fuel, kind, params⟩ := draft
  match operands with
  | [] | [_] | _ :: _ :: _ :: _ => cases h
  | [source, path] =>
    cases h
    exact ⟨_, _, rfl, fun kind => rfl⟩

/-- The option that sets the kind, as one word. -/
def kindOption (kind : Text) : Text := "--kind=".toList ++ kind

/-- **A command line for all nodes is one for the only node**, and it may set the kind as well. -/
theorem read_single_of_read_eval {words : List Text} {invocation : Invocation}
    (h : read ("eval".toList :: words) = .ok invocation) :
    ∃ query json, invocation.command = .eval query json ∧
      read ("single".toList :: words) =
        .ok { invocation with command := .single query "node".toList json } ∧
      ∀ kind, read ("single".toList :: kindOption kind :: words) =
        .ok { invocation with command := .single query kind json } := by
  obtain ⟨p, hp, h⟩ := bind_eq_ok_iff.1 (show Verb.read .eval words = .ok invocation from h)
  obtain ⟨q, hq, h⟩ := bind_eq_ok_iff.1 h
  obtain ⟨query, json, hc, hsingle⟩ := Draft.exists_of_invocation_eval h
  obtain ⟨hfree, hwords⟩ :=
    Progress.agree_words (p := {}) (fun _ => nofun) words hp
  have hread (kind : Option Text) : (do
      let p ← words.foldlM (Progress.word .single) (Progress.withKind kind {})
      let p ← p.settle .single
      p.draft.invocation .single) =
      .ok { invocation with command := .single query (kind.getD "node".toList) json } :=
    bind_eq_ok_iff.2 ⟨_, hwords kind,
      bind_eq_ok_iff.2 ⟨_, Progress.settle_withKind hfree hq kind, hsingle kind⟩⟩
  refine ⟨query, json, hc, hread none, fun kind => ?_⟩
  have hfirst : Progress.word .single {} (kindOption kind) = .ok (Progress.withKind (some kind) {}) :=
    rfl
  show (do
      let p ← (kindOption kind :: words).foldlM (Progress.word .single) {}
      let p ← p.settle .single
      p.draft.invocation .single) = _
  rw [List.foldlM_cons, hfirst]
  exact hread (some kind)

end Usage

namespace Invocation

/-! ## Runs -/

/-- The line that tells that there was more than one node to show. -/
def severalFound (kind path : Text) (count : Nat) : Text :=
  "error: more than one ".toList ++ kind ++ " matches `".toList ++ path ++ "` (".toList ++
    Text.ofNat count ++ " found)\n".toList

theorem failure_ambiguous (kind path : Text) (count : Nat) :
    Outcome.failure (Error.ambiguous kind path count).message =
      { code := 1, errors := severalFound kind path count } := by
  unfold Outcome.failure severalFound Error.message
  simp only [List.append_assoc]
  rfl

/-- **Showing the only node agrees with showing all nodes.** Both fail alike when the snapshot or the
path is at fault; otherwise the number of nodes decides, repetitions counted. -/
theorem run_single_of_run_eval :
    (∀ (words : List Text) (invocation : Invocation),
      Usage.read ("eval".toList :: words) = .ok invocation →
      ∃ query json, invocation.command = .eval query json ∧
        Usage.read ("single".toList :: words) =
          .ok { invocation with command := .single query "node".toList json } ∧
        ∀ kind, Usage.read ("single".toList :: Usage.kindOption kind :: words) =
          .ok { invocation with command := .single query kind json }) ∧
    ∀ (query : Query) (kind : Text) (json : Bool) (color : ColorChoice) (onTerminal : Bool)
      (input : Input),
      let all := run onTerminal input { command := .eval query json, color }
      let single := run onTerminal input { command := .single query kind json, color }
      (all.code = 1 ∧ single = { code := 1, errors := all.errors }) ∨
        ∃ tree nodes, load query.source input = .ok tree ∧ found query [tree] = .ok nodes ∧
          all.code = 0 ∧
          (nodes.length = 1 → single.code = 0 ∧ single.output = all.output ∧ single.errors = []) ∧
          (nodes.length = 0 → single = { errors := nothingFound kind query.path }) ∧
          (1 < nodes.length →
            single = { code := 1, errors := severalFound kind query.path nodes.length }) := by
  refine ⟨fun words invocation => Usage.read_single_of_read_eval, ?_⟩
  intro query kind json color onTerminal input all single
  have hall : all = _ := run_eval query json 0 color onTerminal input
  have hsingle : single = _ := run_single query json 0 color onTerminal input kind
  rcases followed_cases query input with ⟨message, hfail⟩ | ⟨tree, nodes, hload, hfound, hshown⟩
  · rw [hfail] at hall hsingle
    exact .inl ⟨congrArg Outcome.code hall, by rw [hall, hsingle]; rfl⟩
  · rw [hshown] at hall hsingle
    refine .inr ⟨tree, nodes, hload, hfound, congrArg Outcome.code hall, ?_⟩
    rw [hall, hsingle]
    match nodes with
    | [] => exact ⟨nofun, fun _ => rfl, nofun⟩
    | [node] => exact ⟨fun _ => ⟨rfl, rfl, rfl⟩, nofun, fun hlt => absurd hlt (by simp)⟩
    | first :: second :: more =>
      exact ⟨fun hone => absurd hone (by simp), nofun, fun _ => failure_ambiguous _ _ _⟩

/-- Two nodes of one name are sought as a button. -/
theorem run_single_of_run_eval_buttons :
    let words := ["-".toList, "*|OK".toList, "--json".toList]
    let query : Query := { source := "-".toList, path := "*|OK".toList }
    let input : Input := .ok
      "\x7b\"name\": \"W\", \"children\": [\x7b\"name\": \"OK\"\x7d, \x7b\"name\": \"OK\"\x7d]\x7d".toList
    Usage.read ("eval".toList :: words) = .ok { command := .eval query true } ∧
      Usage.read ("single".toList :: Usage.kindOption "button".toList :: words) =
        .ok { command := .single query "button".toList true } ∧
      (run false input { command := .eval query true }).code = 0 ∧
      run false input { command := .single query "button".toList true } =
        { code := 1, errors := "error: more than one button matches `*|OK` (2 found)\n".toList } := by
  intro words query input
  have hread : Usage.read ("eval".toList :: words) = .ok { command := .eval query true } := rfl
  obtain ⟨query', json, hc, -, hsingle⟩ := run_single_of_run_eval.1 words _ hread
  cases hc
  let loaded := Tree.build
    [.node ['W'], .node ['O', 'K'], .child 0 1, .node ['O', 'K'], .child 0 2]
  have hnodes : ∀ tree nodes, load query.source input = .ok tree → found query [tree] = .ok nodes →
      nodes.length = 2 := by
    intro tree nodes hload hfound
    have hsnapshot : load query.source input = .ok loaded := by decide +kernel
    cases hsnapshot.symm.trans hload
    have htwo : found query [loaded] = .ok [⟨0, 1⟩, ⟨0, 2⟩] := by decide +kernel
    cases htwo.symm.trans hfound
    rfl
  refine ⟨hread, hsingle "button".toList, ?_⟩
  rcases run_single_of_run_eval.2 query "button".toList true .auto false input with
    ⟨hfail, -⟩ | ⟨tree, nodes, hload, hfound, hcode, -, -, hmany⟩
  · exact absurd hfail (by decide +kernel)
  · have htwo := hnodes tree nodes hload hfound
    refine ⟨hcode, (hmany (by omega)).trans ?_⟩
    rw [htwo]
    rfl

end Invocation

end TreeQuery
