import IntcodeMachine.Filter.Directive

/-!
# Log filters

A filter chooses the events that the log shows.  It is a list of directives, each of which names
a threshold for some events, and is written with commas between them.  Of the directives that
apply to an event the most specific one decides, and the last of those if there are several; if
none applies, the event is not shown.
-/

namespace IntcodeMachine

/-- A choice of events. -/
abbrev Filter := List Directive

namespace Filter

/-- The filter that is used when none is given, or one that cannot be read. -/
def default : Filter := [{ source := [], scope := .anywhere, threshold := some .warn }]

/-- Reads a filter; it cannot be read if one of its directives cannot. -/
def read? (text : String) : Option Filter :=
  ((text.toList.splitOn ',').filter fun piece => !piece.isEmpty).mapM Directive.read?

/-- The filter that a setting asks for. -/
def ofSetting (setting : Option String) : Filter :=
  (setting.bind read?).getD default

/-- The directive that decides about an event. -/
def deciding (filter : Filter) (e : Event) : Option Directive :=
  (filter.filter fun d => d.applies e).foldl (fun best d =>
    match best with
    | none => some d
    | some b => if d.atLeastAsSpecific b then some d else some b) none

/-- Whether an event is shown. -/
def shows (filter : Filter) (e : Event) : Bool :=
  match (filter.deciding e).bind Directive.threshold with
  | none => false
  | some threshold => threshold.rank ≤ e.level.rank

end Filter

end IntcodeMachine
