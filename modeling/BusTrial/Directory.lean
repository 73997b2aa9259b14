import BusTrial.FilePath
import BusTrial.Probe.Basic

/-!
# The objects of a service

Tests speak of objects and interfaces by what is special about them (`/block_devices/sda`, `.Block`).
A `Directory` completes these suffixes: a path suffix is put after the service's path, unless it
begins with that already, and an interface suffix after the service's name.

An object counts as exported when its description names an interface that begins with the name of the
service.
-/

namespace BusTrial

/-- Where the objects of a service are found. -/
structure Directory where
  link : BusLink
  /-- The bus name, which all interface names begin with. -/
  service : String
  /-- The path that all object paths begin with. -/
  pathBase : String
  timing : Timing := {}

/-- An interface of an object. -/
structure InterfaceRef where
  link : BusLink
  object : ObjectRef
  interface : String

/-- Calls a method of an interface. -/
def InterfaceRef.call {σ : Type} [Bus σ] [Processes σ] [EventLog σ] (i : InterfaceRef)
    (method : String) (arguments : List Value) : Act σ (List Value) :=
  i.link.callMethod i.object i.interface method arguments

namespace Directory

/-- The interface on which objects describe themselves. -/
def introspectable : String := "org.freedesktop.DBus.Introspectable"

/-- The object path of a suffix; a full path stays as it is. -/
def resolvePath (d : Directory) (suffix : String) : String :=
  if Text.startsWith suffix d.pathBase then suffix else d.pathBase ++ suffix

/-- The interface name of a suffix. -/
def interfaceName (d : Directory) (suffix : String) : String :=
  d.service ++ suffix

/-- What the description of an exported object holds. -/
def exportMarker (d : Directory) : String :=
  "interface name=\"" ++ d.service

/-- What the description of the manager holds when a module is loaded. -/
def moduleMarker (d : Directory) (module : String) : String :=
  "interface name=\"" ++ d.service ++ ".Manager." ++ module ++ "\""

/-- An interface of an object. -/
def interface (d : Directory) (object : ObjectRef) (suffix : String) : InterfaceRef :=
  { link := d.link, object, interface := d.interfaceName suffix }

/-- A probe of a property. -/
def probe (d : Directory) (object : ObjectRef) (suffix property : String) : Probe :=
  { link := d.link, object, interface := d.interfaceName suffix, property, timing := d.timing }

/-- The path suffix of a block device, given its name or its device node. -/
def deviceSuffix (device : String) : String :=
  "/block_devices/" ++ ((FilePath.mk device).fileName?.getD device)

variable {σ : Type} [Bus σ] [Processes σ] [EventLog σ]

/-- The object of a path suffix, if the service exports it. -/
def object (d : Directory) (suffix : String) : Act σ (Option ObjectRef) := do
  let path := d.resolvePath suffix
  if !ObjectPath.isValid path then
    report "warn" "bus.object.invalid_path" [("path", .string path)]
    return none
  let object : ObjectRef := ⟨d.service, path⟩
  match ← (d.link.introspect object : Act σ String).result with
  | .ok xml =>
    if Text.contains xml d.exportMarker then return some object
    report "debug" "bus.object.not_exported" [("object", .string object.display)]
    return none
  | .error failure =>
    report "debug" "bus.object.lookup_failed"
      [("object", .string object.display), ("error", .string failure.message)]
    return none

/-- The object of a block device, if the service exports it. -/
def device (d : Directory) (name : String) : Act σ (Option ObjectRef) :=
  d.object (deviceSuffix name)

/-- An interface of the object of a path suffix, if the service exports that. -/
def interfaceAt (d : Directory) (pathSuffix suffix : String) : Act σ (Option InterfaceRef) := do
  return (← d.object pathSuffix).map fun object => d.interface object suffix

/-- Reads a property once; it must be there. -/
def readProperty (d : Directory) (object : ObjectRef) (suffix property : String) :
    Act σ Value := do
  let interface := d.interfaceName suffix
  match ← (d.link.getProperty object interface property : Act σ (Option Value)) with
  | some value => return value
  | none =>
    throw (.bus (object.display ++ " has no property " ++ interface ++ "." ++ property))

/-- The last element of the path of a block device's drive. -/
def driveName (d : Directory) (device : ObjectRef) : Act σ String := do
  let drive ← d.readProperty device ".Block" "Drive"
  match drive.text? with
  | some path => return Text.afterLast '/' path
  | none => throw (.bus ("Block.Drive of " ++ device.display ++ " is " ++ drive.display))

/-- The description of the manager: what it says of itself, or else what the bus says of it. -/
def describeManager (d : Directory) (manager : ObjectRef) : Act σ String := do
  let values ← d.link.callMethod manager introspectable "Introspect" []
  match values.head?.bind Value.text? with
  | some xml => return xml
  | none => d.link.introspect manager

/-- Makes sure that an optional module of the service is loaded: modules are enabled if it is not.
Says whether it is loaded afterwards. -/
def checkModuleLoaded (d : Directory) (module : String) : Act σ Bool := do
  let some manager ← d.object "/Manager"
    | throw (.bus (d.service ++ " exports no Manager"))
  if Text.contains (← d.describeManager manager) (d.moduleMarker module) then return true
  report "info" "suite.module.enabling" [("module", .string module)]
  let _ ← (d.interface manager ".Manager").call "EnableModules" [.bool true]
  return Text.contains (← d.describeManager manager) (d.moduleMarker module)

end Directory

end BusTrial
