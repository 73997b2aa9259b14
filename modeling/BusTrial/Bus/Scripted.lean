import BusTrial.Act
import BusTrial.ObjectPath
import BusTrial.Table
import BusTrial.Value.Basic

/-!
# Buses

A state with a `Bus` reads properties of objects, calls their methods and describes them in XML.
`ScriptedBus` is a bus in memory.  A property replays the replies it was scripted with in order and
then keeps repeating the last one; a method hands out each queued reply once and then nothing; both
go by the path of the object alone.  Reads are counted and calls are noted.
-/

namespace BusTrial

/-- The state has a bus. -/
class Bus (σ : Type) where
  /-- The value of a property; an object without the property or its interface has none. -/
  getProperty (object : ObjectRef) (interface property : String) : Act σ (Option Value)
  /-- Calls a method, and takes the values that it replies. -/
  callMethod (object : ObjectRef) (interface method : String) (arguments : List Value) :
    Act σ (List Value)
  /-- The description of an object in XML. -/
  introspect (object : ObjectRef) : Act σ String

instance {ε σ : Type} [Bus σ] : Bus (ε × σ) where
  getProperty object interface property := Act.onRight (Bus.getProperty object interface property)
  callMethod object interface method arguments :=
    Act.onRight (Bus.callMethod object interface method arguments)
  introspect object := Act.onRight (Bus.introspect object)

/-- What a read of a property finds. -/
inductive Reply where
  | value (value : Option Value)
  | error (text : String)

/-- The end of an action that such a read is. -/
def Reply.outcome : Reply → Outcome (Option Value)
  | .value found => .done found
  | .error text => .failed (.bus text)

/-- A property or a method of an object. -/
structure MemberKey where
  path : String
  interface : String
  name : String
  deriving DecidableEq, Repr

/-- A method call. -/
structure MethodCall where
  object : ObjectRef
  interface : String
  method : String
  arguments : List Value

/-- A bus in memory. -/
structure ScriptedBus where
  properties : Table MemberKey (List Reply) := ∅
  replies : Table MemberKey (List (Except String (List Value))) := ∅
  descriptions : Table String String := ∅
  /-- Every method call, the first one first. -/
  calls : Array MethodCall := #[]
  /-- The number of properties read. -/
  fetches : Nat := 0

namespace ScriptedBus

/-- Scripts the replies of a property from now on. -/
def script (key : MemberKey) (replies : List Reply) (b : ScriptedBus) : ScriptedBus :=
  { b with properties := b.properties.set key replies }

/-- Queues a reply of a method. -/
def queueReply (key : MemberKey) (reply : Except String (List Value)) (b : ScriptedBus) :
    ScriptedBus :=
  { b with replies := b.replies.set key ((b.replies.get? key).getD [] ++ [reply]) }

/-- Sets the description of an object. -/
def describe (path xml : String) (b : ScriptedBus) : ScriptedBus :=
  { b with descriptions := b.descriptions.set path xml }

/-- Reads a property: the next reply if there is one after it, and the last one for ever. -/
def getProperty (object : ObjectRef) (interface property : String) :
    Act ScriptedBus (Option Value) :=
  fun b =>
    let b := { b with fetches := b.fetches + 1 }
    let key := ⟨object.path, interface, property⟩
    match b.properties.get? key with
    | none | some [] => (.done none, b)
    | some [reply] => (reply.outcome, b)
    | some (reply :: rest) => (reply.outcome, b.script key rest)

/-- Calls a method: its next reply, or no values. -/
def callMethod (object : ObjectRef) (interface method : String) (arguments : List Value) :
    Act ScriptedBus (List Value) :=
  fun b =>
    let b := { b with calls := b.calls.push { object, interface, method, arguments } }
    let key := ⟨object.path, interface, method⟩
    match b.replies.get? key with
    | none | some [] => (.done [], b)
    | some (reply :: rest) =>
      let b := { b with replies := b.replies.set key rest }
      match reply with
      | .ok values => (.done values, b)
      | .error text => (.failed (.bus text), b)

/-- The description of an object that has one. -/
def introspect (object : ObjectRef) : Act ScriptedBus String :=
  fun b =>
    match b.descriptions.get? object.path with
    | some xml => (.done xml, b)
    | none => (.failed (.bus ("no such object " ++ object.display)), b)

instance : Bus ScriptedBus := ⟨getProperty, callMethod, introspect⟩

end ScriptedBus

end BusTrial
