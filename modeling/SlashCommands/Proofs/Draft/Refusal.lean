import SlashCommands.Proofs.Draft.Calls
import SlashCommands.Proofs.Pattern.Evaluation

/-!
# Refused calls

A refused call leaves the draft as it is, with one exception (`Draft.refused_unchanged_iff`): a call
that sets the name of a nameless draft and, since it brings a second description, is refused for
that, after the name has been set.  Apart from it, a draft is what the accepted calls alone make of
it (`Draft.applyAll_accepted`).
-/

namespace SlashCommands.Draft

/-- Holds of a call that brings a name for a nameless draft and a second description. -/
def NamesWhenRefused (d : Draft) : Call → Prop
  | .setCommand _ description => d.command = none ∧ d.description.isSome ∧ description ≠ ""
  | _ => False

variable {d : Draft}

theorem setDescription_of_refused {description : String} {fault : Fault}
    (h : (d.setDescription description).2 = .error fault) :
    (d.setDescription description).1 = d ∧ d.description.isSome ∧ description ≠ "" := by
  rw [setDescription] at h ⊢
  split at h
  · cases h
  · next hne =>
    split at h
    · next hsome =>
      rw [if_neg hne, if_pos hsome]
      exact ⟨rfl, hsome, by simpa using hne⟩
    · cases h

theorem whenNamed_of_refused {operation : String} {change : Draft → Outcome} {fault : Fault}
    (hchange : (change d).2 = .error fault → (change d).1 = d)
    (h : (d.whenNamed operation change).2 = .error fault) :
    (d.whenNamed operation change).1 = d := by
  rcases whenNamed_cases d operation change with heq | heq
  · rw [heq]
    rfl
  · rw [heq] at h ⊢
    exact hchange h

theorem addArgument_of_refused {o : ArgumentOptions} {fault : Fault}
    (h : (d.addArgument o).2 = .error fault) : (d.addArgument o).1 = d := by
  rcases addArgument_cases d o with ⟨fault, heq⟩ | ⟨tokens, -, ⟨-, -, heq⟩ | ⟨target, -, -, heq⟩⟩
  · rw [heq]
    rfl
  · rw [heq] at h
    cases h
  · rw [heq] at h
    cases h

/-- A refused call leaves the draft as it is, unless it names it. -/
theorem apply_of_refused {call : Call} {fault : Fault} (h : (d.apply call).2 = .error fault)
    (hnames : ¬ d.NamesWhenRefused call) : (d.apply call).1 = d := by
  cases call with
  | setCommand name description =>
    rw [apply, setCommand] at h ⊢
    cases hcommand : d.command with
    | some existing => rfl
    | none =>
      rw [hcommand] at h
      obtain ⟨-, hsome, hne⟩ := setDescription_of_refused h
      exact absurd ⟨hcommand, hsome, hne⟩ hnames
  | setDescription description => exact (setDescription_of_refused h).1
  | setKind kind => cases h
  | addSubcommand name description => exact whenNamed_of_refused (fun h => by cases h) h
  | addArgument options => exact whenNamed_of_refused addArgument_of_refused h
  | addRequire value => exact whenNamed_of_refused (fun h => by cases h) h
  | addChannel channel => exact whenNamed_of_refused (fun h => by cases h) h
  | addGuild guild => exact whenNamed_of_refused (fun h => by cases h) h
  | setAction action => exact whenNamed_of_refused (fun h => by cases h) h

/-- A call that brings a name and a second description leaves the name behind and nothing else. -/
theorem setCommand_of_namesWhenRefused {name description : String}
    (h : d.NamesWhenRefused (.setCommand name description)) :
    d.apply (.setCommand name description) =
      ({ d with command := some name }, .error (.duplicateDescription name)) := by
  obtain ⟨hcommand, hsome, hne⟩ := h
  rw [apply, setCommand, hcommand]
  dsimp only
  rw [setDescription, if_neg (by simpa using hne), if_pos hsome]
  rfl

/-- A draft that a refused call has named can be built, and could not before. -/
theorem build_ne_of_namesWhenRefused {call : Call} (h : d.NamesWhenRefused call) :
    (d.apply call).1.build ≠ d.build := by
  cases call with
  | setCommand name description =>
    obtain ⟨text, htext⟩ := Option.isSome_iff_exists.mp h.2.1
    have hbefore : d.build = .error (.commandNotSet "build") := by
      rw [build, h.1]
    rw [setCommand_of_namesWhenRefused h, hbefore, build, htext]
    intro heq
    cases heq
  | _ => exact h.elim

/-- **When a refused call changes nothing**: exactly unless it brings a name for a nameless draft
and a second description.  In the same cases all that is built later, after whatever further calls,
is as if the refused call had not been made. -/
theorem refused_unchanged_iff (d : Draft) (call : Call) (fault : Fault)
    (h : (d.apply call).2 = .error fault) :
    ((d.apply call).1 = d ↔ ¬ d.NamesWhenRefused call) ∧
      ((∀ rest, (d.applyAll (call :: rest)).build = (d.applyAll rest).build) ↔
        ¬ d.NamesWhenRefused call) := by
  refine ⟨⟨fun heq hnames => ?_, apply_of_refused h⟩,
    ⟨fun hall hnames => ?_, fun hnames rest => ?_⟩⟩
  · exact build_ne_of_namesWhenRefused hnames (by rw [heq])
  · exact build_ne_of_namesWhenRefused hnames (hall [])
  · rw [applyAll_cons, apply_of_refused h hnames]

/-- A bound on an argument that is no number is refused, and the draft stays without it. -/
theorem refused_unchanged_bound :
    let d := empty.applyAll [.setCommand "roll" "Roll dice"]
    let call := Call.addArgument { ArgumentOptions.plain "<sides>" "Sides" with max := some 20.0 }
    (d.apply call).2 = .error (.numericBound "sides" "string") ∧ (d.apply call).1 = d := by
  intro d call
  have htokens : Pattern.tokens "<sides>" = .ok [⟨.arg, false, "sides", "string", none, 0⟩] :=
    Pattern.tokens_of_splitWithin? rfl rfl
  have h : (d.apply call).2 = .error (.numericBound "sides" "string") := by
    show (d.addArgument _).2 = _
    simp only [addArgument, ArgumentOptions.plain, htokens]
    rfl
  exact ⟨h, (refused_unchanged_iff d call _ h).1.mpr fun hnames => hnames⟩

/-- A second description comes with the name: the call is refused, and the name stays. -/
theorem setCommand_refused_names :
    let d := empty.applyAll [.setDescription "First"]
    let call := Call.setCommand "ping" "Second"
    (d.apply call).2 = .error (.duplicateDescription "ping") ∧ (d.apply call).1 ≠ d ∧
      d.build = .error (.commandNotSet "build") ∧ (d.apply call).1.build ≠ d.build := by
  intro d call
  have hnames : d.NamesWhenRefused call := ⟨rfl, rfl, by decide⟩
  have hne := build_ne_of_namesWhenRefused hnames
  exact ⟨rfl, fun heq => hne (by rw [heq]), rfl, hne⟩

/-! ### Sequences of calls -/

/-- The calls of a sequence that are accepted when all are made one after the other. -/
def accepted (d : Draft) : List Call → List Call
  | [] => []
  | call :: rest =>
    match d.apply call with
    | (d, .ok ()) => call :: d.accepted rest
    | (d, .error _) => d.accepted rest

/-- A draft is what the accepted calls make of it, if no refused call names it. -/
theorem applyAll_accepted {calls : List Call}
    (h : ∀ before call after, calls = before ++ call :: after →
      ¬ (d.applyAll before).NamesWhenRefused call) :
    d.applyAll (d.accepted calls) = d.applyAll calls := by
  -- the draft changes from call to call, and the hypothesis has to follow it
  induction calls generalizing d with
  | nil => rfl
  | cons call rest ih =>
    have hrest : ∀ before later after, rest = before ++ later :: after →
        ¬ ((d.apply call).1.applyAll before).NamesWhenRefused later := fun before later after heq =>
      h (call :: before) later after (by rw [heq, List.cons_append])
    have ih := ih hrest
    rw [accepted, applyAll_cons]
    cases houtcome : d.apply call with
    | mk d' result =>
      rw [houtcome] at ih
      cases result with
      | ok =>
        dsimp only
        rw [applyAll_cons, houtcome]
        exact ih
      | error fault =>
        have hsame : (d.apply call).1 = d :=
          apply_of_refused (by rw [houtcome]) (h [] call rest rfl)
        rw [houtcome] at hsame
        obtain rfl := hsame
        exact ih

end SlashCommands.Draft
