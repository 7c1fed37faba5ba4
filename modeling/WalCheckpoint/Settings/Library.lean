import WalCheckpoint.Settings

namespace WalCheckpoint.Settings.Library

/-! A library to which the directives that are not followed are idle, as far as they may be. -/

def isFollowed (entry : Value × Value) : Bool :=
  (Directives.textOf? entry.1).all fun name => Directives.follows name entry.2

def isIdle (entry : Value × Value) : Bool :=
  (Directives.textOf? entry.1).any Directives.otherNames.contains

/-- What is given without idle directives is read in their place. -/
def passing (read : Mapping → Except Failure α) (given : Mapping) : Except Failure α :=
  if given.all fun entry => isFollowed entry || isIdle entry then read (given.filter isFollowed)
  else .error .foreign

/-- A library that fails. -/
def failing : Library where
  source _ := .error .foreign
  observability _ := .error .foreign
  settings _ _ := .error .foreign
  passedOver _ _ := 0

def ofSections (vars : List (String × String)) (files : Files) : Library where
  source := passing (readSource ⟨vars, files, failing⟩)
  observability := passing (readObservability ⟨vars, files, failing⟩)
  settings := failing.settings
  passedOver := failing.passedOver

def idle (vars : List (String × String)) (files : Files) : Library :=
  let environment : Environment := ⟨vars, files, ofSections vars files⟩
  { environment.library with
    settings := fun source? => passing (readWith environment source?)
    passedOver := fun _ given =>
      environment.unreadableCount (outerDirectives.withGiven (given.filter isFollowed)) }

end WalCheckpoint.Settings.Library
