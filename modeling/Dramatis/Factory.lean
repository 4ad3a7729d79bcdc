import Dramatis.Act
import Dramatis.Actor

/-!
# Dramatis.Factory

How personae become actors. A factory may keep a state from call to call, and it
may refuse a persona; its state is kept then too.

Besides the factory of characters there are four of players, which differ in the
name they give, in the personae they refuse and in the value a player starts
with. Those four count their calls, refused ones included.
-/

namespace Dramatis

open Text

/-- Makes an actor of a persona, or says why not, and moves on to its next state. -/
def Factory (σ α : Type) := Persona → σ → Except Failure α × σ

namespace Factory

variable {σ α : Type}

/-- A factory that keeps no state. -/
def stateless (make : Persona → Except Failure α) : Factory Unit α :=
  fun persona _ => (make persona, ())

/-- A factory that counts its calls: `make` is told the number of the call, the
first being number one. -/
def counting (make : Nat → Persona → Except Failure α) : Factory Nat α :=
  fun persona calls => (make (calls + 1) persona, calls + 1)

/-- One call of a factory. A failure is reported with the persona's name as it
was written and the place of its declaration. -/
def call (factory : Factory σ α) (persona : Persona) : Act σ α := do
  let (made, next) := factory persona (← Act.state)
  Act.become next
  match made with
  | .ok actor => return actor
  | .error failure => Act.fail (.refused persona.name persona.location failure)

/-- Characters, of any persona whose name is not blank. -/
def character : Factory Unit Character :=
  stateless fun persona =>
    if isBlankText persona.name then .error (.ofMessage "persona has an empty name")
    else .ok (.ofPersona persona)

/-- Players for the personae that have a description, be it an empty one. -/
def strict : Factory Nat Player :=
  counting fun _ persona =>
    match persona.description with
    | none => .error (.ofMessage (persona.name ++ " has no description"))
    | some _ => .ok ⟨Name.normalize persona.name, 0, []⟩

/-- Players under the names as they were written, numbered by their calls. -/
def raw : Factory Nat Player :=
  counting fun call persona => .ok ⟨persona.name, .ofNat call, []⟩

/-- Players named by their descriptions as they were written, numbered by their
calls. -/
def described : Factory Nat Player :=
  counting fun call persona =>
    match persona.description with
    | none => .error (.ofMessage "nameless")
    | some description => .ok ⟨description, .ofNat call, []⟩

/-- Players numbered by their calls, as long as the number is within a limit.
The limit is behind the failure of the calls beyond it. -/
def limited (limit : Int) : Factory Nat Player :=
  counting fun call persona =>
    if limit < call then
      .error ((Failure.ofMessage ("limit " ++ Decimal.signedText limit ++ " reached")).wrap
        ("no room for " ++ persona.name))
    else .ok ⟨Name.normalize persona.name, .ofNat call, []⟩

end Factory

end Dramatis
