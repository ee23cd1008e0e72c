import LayeredFlags.Command.Arguments
import LayeredFlags.Proofs.Outcome
/-!
# Arguments that Name a Stack

Each of the commands that look at a stack has options of its own beside those for logs and those
that name the stack. The common options neither depend on what the others have read nor change
it, so that the same arguments name the same stack to all commands.

## Main definitions

* `Command.Change.Commutes`, `Command.Effect.Commutes`: an option has nothing to do with a part
  of what was read;
* `Command.Grammar.Embeds`: a grammar has the options of another one, and further options;
* `Command.StackArguments`: arguments that name a stack, and nothing else;
* `Command.NamesStack`: the stack that some arguments name to all commands.

## Main results

* `Command.Grammar.read_of_embeds`: a grammar reads whatever a grammar reads that it embeds;
* `Command.StackArguments.namesStack`: the stack that arguments name is that of every command.
-/

namespace LayeredFlags.Command

section Embeds

variable {σ : Type}

/-- The change does not depend on what the map changes, and does not change it. -/
def Change.Commutes (map : σ → σ) (change : Change σ) : Prop :=
  ∀ state, change (map state) = map <$> change state

/-- What the option does commutes with the map. -/
def Effect.Commutes (map : σ → σ) : Effect σ → Prop
  | .switch apply => Change.Commutes map apply
  | .value apply => ∀ text, Change.Commutes map (apply text)

theorem eq_ok_of_commutes {map : σ → σ} {change : Change σ} {state result : σ}
    (h : Change.Commutes map change) (hchange : change state = .ok result) :
    change (map state) = .ok (map result) := by
  rw [h, hchange, map_ok]

namespace Grammar

/-- The second grammar has the options of the first one and further options after them. The map
changes what the options of the first one do not depend on. -/
structure Embeds (map : σ → σ) (grammar larger : Grammar σ) : Prop where
  /-- The options of the first grammar come first. -/
  options : ∃ more, larger.options = grammar.options ++ more
  /-- They commute with the map. -/
  commutes : ∀ option ∈ grammar.options, option.effect.Commutes map
  /-- So do the operands of the first grammar, which are the same in the second. -/
  operand : ∀ text state result, grammar.operand text state = .ok result →
    larger.operand text (map state) = .ok (map result)

variable {map : σ → σ} {grammar larger : Grammar σ} {state result : σ}

theorem Embeds.find?_eq_some (h : Embeds map grammar larger) {test : OptionForm σ → Bool}
    {option : OptionForm σ} (hoption : grammar.options.find? test = some option) :
    larger.options.find? test = some option := by
  obtain ⟨more, hmore⟩ := h.options
  rw [hmore, List.find?_append, hoption, Option.some_or]

/-- What is to be done with a value that has to follow commutes with the map. -/
def Awaits (map : σ → σ) (pending : Option (String → Change σ)) : Prop :=
  ∀ apply, pending = some apply → ∀ text, Change.Commutes map (apply text)

theorem awaits_none (map : σ → σ) : Awaits map none := by
  intro apply happly
  cases happly

theorem awaits_some {apply : String → Change σ} (h : ∀ text, Change.Commutes map (apply text)) :
    Awaits map (some apply) := by
  rintro _ ⟨⟩ text
  exact h text

/-- A change that is made at once commutes with the map, and nothing has to follow. -/
theorem applied_of_commutes {change : Change σ} (h : Change.Commutes map change)
    {pending : Option (String → Change σ)}
    (hread : (do return (← change state, none) : Except Stop (Progress σ)) =
      .ok (result, pending)) :
    (do return (← change (map state), none) : Except Stop (Progress σ)) =
        .ok (map result, pending) ∧ Awaits map pending := by
  obtain ⟨changed, hchanged, hresult⟩ := bind_eq_ok_iff.1 hread
  cases hresult
  rw [eq_ok_of_commutes h hchanged]
  exact ⟨rfl, awaits_none map⟩

/-- A word is read as before. -/
theorem readWord_of_embeds (h : Embeds map grammar larger) {text : List Char}
    {pending : Option (String → Change σ)}
    (hread : grammar.readWord state text = .ok (result, pending)) :
    larger.readWord (map state) text = .ok (map result, pending) ∧ Awaits map pending := by
  unfold readWord at hread ⊢
  dsimp only at hread ⊢
  split at hread
  · cases hread
  next option hoption =>
  have hcommutes := h.commutes option (List.mem_of_find?_eq_some hoption)
  rw [h.find?_eq_some hoption]
  dsimp only
  cases heffect : option.effect with
  | switch apply =>
    rw [heffect] at hread hcommutes
    cases hattached : text.dropWhile (· != '=') with
    | nil =>
      rw [hattached] at hread
      exact applied_of_commutes hcommutes hread
    | cons first attached =>
      rw [hattached] at hread
      cases hread
  | value apply =>
    rw [heffect] at hread hcommutes
    cases hattached : text.dropWhile (· != '=') with
    | nil =>
      rw [hattached] at hread
      cases hread
      exact ⟨rfl, awaits_some hcommutes⟩
    | cons first attached =>
      rw [hattached] at hread
      exact applied_of_commutes (hcommutes _) hread

/-- Letters are read as before. -/
theorem readLetters_of_embeds (h : Embeds map grammar larger) {letters : List Char}
    {pending : Option (String → Change σ)}
    (hread : grammar.readLetters state letters = .ok (result, pending)) :
    larger.readLetters (map state) letters = .ok (map result, pending) ∧ Awaits map pending := by
  induction letters generalizing state with
  | nil =>
    cases hread
    exact ⟨rfl, awaits_none map⟩
  | cons letter rest ih =>
    unfold readLetters at hread ⊢
    split at hread
    · cases hread
    next option hoption =>
    have hcommutes := h.commutes option (List.mem_of_find?_eq_some hoption)
    rw [h.find?_eq_some hoption]
    dsimp only
    cases heffect : option.effect with
    | switch apply =>
      rw [heffect] at hread hcommutes
      obtain ⟨changed, hchanged, hrest⟩ := bind_eq_ok_iff.1 hread
      dsimp only
      rw [eq_ok_of_commutes hcommutes hchanged]
      exact ih hrest
    | value apply =>
      rw [heffect] at hread hcommutes
      dsimp only at hread ⊢
      split at hread
      · next hempty =>
        rw [if_pos hempty]
        cases hread
        exact ⟨rfl, awaits_some hcommutes⟩
      · next hempty =>
        rw [if_neg hempty]
        exact applied_of_commutes (hcommutes _) hread

theorem readOption_of_embeds (h : Embeds map grammar larger) {argument : String}
    {pending : Option (String → Change σ)}
    (hread : grammar.readOption state argument = .ok (result, pending)) :
    larger.readOption (map state) argument = .ok (map result, pending) ∧ Awaits map pending := by
  unfold readOption at hread ⊢
  split at hread
  · exact readWord_of_embeds h hread
  · exact readLetters_of_embeds h hread

theorem readOperands_of_embeds (h : Embeds map grammar larger) {operands : List String}
    (hread : grammar.readOperands state operands = .ok result) :
    larger.readOperands (map state) operands = .ok (map result) := by
  unfold readOperands at hread ⊢
  induction operands generalizing state with
  | nil =>
    cases hread
    rfl
  | cons operand operands ih =>
    rw [List.foldlM_cons, bind_eq_ok_iff] at hread
    obtain ⟨changed, hchanged, hoperands⟩ := hread
    rw [List.foldlM_cons, h.operand operand state changed hchanged, ok_bind]
    exact ih hoperands

/-- A grammar reads what it embeds. -/
theorem read_of_embeds (h : Embeds map grammar larger) {arguments : List String}
    (hread : grammar.read state arguments = .ok result) :
    larger.read (map state) arguments = .ok (map result) := by
  induction state, arguments using read.induct grammar with
  -- the arguments end
  | case1 state =>
    cases hread
    rfl
  -- two dashes, and operands behind them
  | case2 state rest =>
    rw [read, if_pos rfl] at hread ⊢
    exact readOperands_of_embeds h hread
  -- an option that cannot be read
  | case3 state argument rest hdashes hoption stop hstop =>
    simp only [read, if_neg hdashes, if_pos hoption, hstop] at hread
    cases hread
  -- an option without a value, or with one attached to it
  | case4 state argument rest hdashes hoption changed hchanged ih =>
    simp only [read, if_neg hdashes, if_pos hoption, hchanged] at hread
    simp only [read, if_neg hdashes, if_pos hoption, (readOption_of_embeds h hchanged).1]
    exact ih hread
  -- an option whose value is missing, or is written as an option
  | case5 state argument hdashes hoption changed apply hchanged =>
    simp only [read, if_neg hdashes, if_pos hoption, hchanged] at hread
    cases hread
  | case6 state argument hdashes hoption changed apply hchanged value rest hvalue =>
    simp only [read, if_neg hdashes, if_pos hoption, hchanged, if_pos hvalue] at hread
    cases hread
  -- an option with its value behind it
  | case7 state argument hdashes hoption changed apply hchanged value rest hvalue ih =>
    obtain ⟨hlarger, hawaits⟩ := readOption_of_embeds h hchanged
    simp only [read, if_neg hdashes, if_pos hoption, hchanged, if_neg hvalue,
      bind_eq_ok_iff] at hread
    obtain ⟨next, hnext, hrest⟩ := hread
    simp only [read, if_neg hdashes, if_pos hoption, hlarger, if_neg hvalue,
      eq_ok_of_commutes (hawaits apply rfl value) hnext, ok_bind]
    exact ih next hrest
  -- an operand
  | case8 state argument rest hdashes hoption ih =>
    simp only [read, if_neg hdashes, if_neg hoption, bind_eq_ok_iff] at hread
    obtain ⟨next, hnext, hrest⟩ := hread
    simp only [read, if_neg hdashes, if_neg hoption, h.operand argument state next hnext, ok_bind]
    exact ih next hrest

end Grammar

end Embeds

/-! ## The commands -/

/-- The name of a command may stand in front of all options. -/
theorem ofArguments_cons {name : String} (h : isOption name = false) (arguments : List String) :
    ofArguments (name :: arguments) = ofName name arguments := by
  simp [ofArguments, h, Grammar.read]

/-- The grammar of what all commands that look at a stack read. -/
def stackGrammar : Grammar Draft :=
  grammarOf (logOptions ++ stackOptions)

/-- The grammar of what the command reads that resolves a stack. -/
def resolveGrammar : Grammar Draft :=
  grammarOf (logOptions ++ stackOptions ++ outputOptions)

/-- The arguments are accepted and name a stack, with options for logs among them and nothing
else. -/
def StackArguments (arguments : List String) (choice : StackChoice) : Prop :=
  ∃ draft, stackGrammar.read {} arguments = .ok draft ∧ draft.stack = .ok choice

/-- The draft with these options of a single command. -/
def Draft.withOwn (output : Option String) (format : Option OutputFormat)
    (annotate json human : Bool) (draft : Draft) : Draft :=
  { draft with format, annotate, output, json, human }

section Own

variable (output : Option String) (format : Option OutputFormat) (annotate json human : Bool)

theorem stack_withOwn (draft : Draft) :
    (draft.withOwn output format annotate json human).stack = draft.stack := rfl

/-- The options for logs and for the stack do not depend on the others. -/
theorem commutes_withOwn : ∀ option ∈ logOptions ++ stackOptions,
    option.effect.Commutes (Draft.withOwn output format annotate json human) := by
  intro option hoption
  simp only [logOptions, stackOptions, helpOption, List.mem_append, List.mem_cons,
    List.not_mem_nil, or_false] at hoption
  rcases hoption with (rfl | rfl | rfl) | rfl | rfl | rfl
  · exact fun draft => rfl
  · intro draft
    dsimp only [Draft.withOwn]
    cases turnOn draft.jsonLogs <;> rfl
  · exact fun draft => rfl
  · intro path draft
    dsimp only [Draft.withOwn]
    cases legalPath path with
    | error stop => rfl
    | ok given =>
      rw [ok_bind, ok_bind]
      cases once draft.manifest given <;> rfl
  · intro path draft
    dsimp only [Draft.withOwn]
    cases legalPath path with
    | error stop => rfl
    | ok given =>
      rw [ok_bind, ok_bind]
      cases once draft.catalog given <;> rfl
  · intro spec draft
    dsimp only
    cases LayerEntry.ofSpec spec <;> rfl

theorem embeds_withOwn (more : List (OptionForm Draft)) :
    Grammar.Embeds (Draft.withOwn output format annotate json human) stackGrammar
      (grammarOf (logOptions ++ stackOptions ++ more)) where
  options := ⟨more, rfl⟩
  commutes := commutes_withOwn output format annotate json human
  operand := by
    intro text state result h
    cases h

variable {output format annotate json human}

/-- Behind options of its own, a command goes on with the draft that they have made. -/
theorem read_eq_ok_of_own {more : List (OptionForm Draft)} {given arguments : List String}
    {draft : Draft}
    (hown : (grammarOf (logOptions ++ stackOptions ++ more)).read {} given =
      (grammarOf (logOptions ++ stackOptions ++ more)).read
        (Draft.withOwn output format annotate json human {}) arguments)
    (hread : stackGrammar.read {} arguments = .ok draft) :
    (grammarOf (logOptions ++ stackOptions ++ more)).read {} given =
      .ok (draft.withOwn output format annotate json human) :=
  hown.trans (Grammar.read_of_embeds (embeds_withOwn output format annotate json human more) hread)

end Own

/-- The arguments that name a file for the output, if one is to be named. The path is joined to
its option, so that it may be written as an option. -/
def outputArguments : Option String → List String
  | none => []
  | some path => ["--output=" ++ path]

/-- The arguments that ask for a format, if one is asked for. -/
def formatArguments : Option OutputFormat → List String
  | none => []
  | some .header => ["--format", "header"]
  | some .json => ["--format", "json"]

/-- The arguments that turn on an option, if it is to be turned on. -/
def switchArguments (word : String) : Bool → List String
  | false => []
  | true => [word]

theorem toList_outputArgument (path : String) :
    ("--output=" ++ path).toList = '-' :: '-' :: ("output=".toList ++ path.toList) :=
  String.toList_append

/-- A file for the output is read from the word that it is joined to. -/
theorem readOption_output {path : String} (h : path ≠ "") :
    resolveGrammar.readOption {} ("--output=" ++ path) = .ok ({ output := some path }, none) := by
  have hword : ("output=".toList ++ path.toList).takeWhile (· != '=') = "output".toList := by
    simp
  have hattached : ("output=".toList ++ path.toList).dropWhile (· != '=') = '=' :: path.toList := by
    simp
  have hlegal : legalPath path = .ok path := if_neg (by simpa using h)
  rw [Grammar.readOption, toList_outputArgument]
  -- behind two dashes stands a word
  change resolveGrammar.readWord {} ("output=".toList ++ path.toList) = _
  rw [Grammar.readWord, hword, hattached]
  simp [resolveGrammar, grammarOf, logOptions, stackOptions, outputOptions, helpOption, hlegal,
    once]

/-- The file for the output is read first. -/
theorem read_outputArguments {output : Option String} (h : output ≠ some "")
    (arguments : List String) :
    resolveGrammar.read {} (outputArguments output ++ arguments) =
      resolveGrammar.read { output } arguments := by
  cases output with
  | none => rfl
  | some path =>
    have hpath : path ≠ "" := fun heq => h (congrArg some heq)
    have htext := toList_outputArgument path
    -- whatever the path is, the argument is more than its dashes
    have hne : ∀ dashes, dashes = "-" ∨ dashes = "--" → "--output=" ++ path ≠ dashes := by
      rintro dashes (rfl | rfl) heq <;> simpa using htext.symm.trans (congrArg String.toList heq)
    have hoption : isOption ("--output=" ++ path) = true := by
      simp [isOption, htext, hne]
    simp only [outputArguments, List.cons_append, List.nil_append, Grammar.read,
      if_neg (hne "--" (.inr rfl)), if_pos hoption, readOption_output hpath]

/-- The arguments name the stack, to all commands that look at one, behind the options that a
command has of its own. -/
structure NamesStack (arguments : List String) (choice : StackChoice) : Prop where
  /-- The stack is resolved, and its configuration saved if a file is named. -/
  resolve : ∀ output format annotate, output ≠ some "" →
    ofArguments ("resolve" :: (outputArguments output ++ (formatArguments format ++
      (switchArguments "--annotate" annotate ++ arguments)))) =
        .ok (.resolve choice (format.getD .header) annotate output)
  /-- The stack is validated. -/
  validate : ∀ json, ofArguments ("validate" :: (switchArguments "--json" json ++ arguments)) =
    .ok (.validate choice json)
  /-- The stack is explained. -/
  explain : ∀ human, ofArguments ("explain" :: (switchArguments "--human" human ++ arguments)) =
    .ok (.explain choice human)

/-- Arguments for logs and for a stack name the same stack to all commands. -/
theorem StackArguments.namesStack {arguments : List String} {choice : StackChoice}
    (h : StackArguments arguments choice) : NamesStack arguments choice := by
  obtain ⟨draft, hread, hstack⟩ := h
  refine
    { resolve := fun output format annotate houtput => ?_
      validate := fun json => ?_
      explain := fun human => ?_ }
  · have hleading : resolveGrammar.read {} (outputArguments output ++
        (formatArguments format ++ (switchArguments "--annotate" annotate ++ arguments))) =
          .ok (draft.withOwn output format annotate false false) := by
      refine read_eq_ok_of_own ((read_outputArguments houtput _).trans ?_) hread
      rcases format with _ | _ | _ <;> cases annotate <;> rfl
    rw [ofArguments_cons rfl]
    unfold ofName
    rw [if_pos rfl]
    change (resolveGrammar.read _ _ >>= _) = _
    rw [hleading, ok_bind, stack_withOwn, hstack, ok_bind]
    rfl
  · have hleading : (grammarOf (logOptions ++ stackOptions ++ [jsonOption])).read {}
        (switchArguments "--json" json ++ arguments) =
          .ok (draft.withOwn none none false json false) :=
      read_eq_ok_of_own (by cases json <;> rfl) hread
    rw [ofArguments_cons rfl]
    unfold ofName
    rw [if_neg (by decide), if_pos rfl, hleading, ok_bind, stack_withOwn, hstack, ok_bind]
    rfl
  · have hleading : (grammarOf (logOptions ++ stackOptions ++ [humanOption])).read {}
        (switchArguments "--human" human ++ arguments) =
          .ok (draft.withOwn none none false false human) :=
      read_eq_ok_of_own (by cases human <;> rfl) hread
    rw [ofArguments_cons rfl]
    unfold ofName
    rw [if_neg (by decide), if_neg (by decide), if_pos rfl, hleading, ok_bind, stack_withOwn,
      hstack, ok_bind]
    rfl

example : NamesStack ["-v", "-c", "flags.toml", "--layer=a:-1:a.h"]
    (.parts "flags.toml" [⟨"a", -1, "a.h"⟩]) :=
  StackArguments.namesStack ⟨_, by rfl, by rfl⟩

end LayeredFlags.Command
