import TagOrder.Storage.Volume

/-!
# Copying files

A copy onto a directory goes into it, under the name of the source. Nothing is copied onto itself.
-/

namespace TagOrder.Volume

/-- Where a copy goes: onto a directory means into it, under the name of the source. -/
def copyTarget (volume : Volume) (source destination : String) : String :=
  match volume.locate destination with
  | .ok place =>
    if volume.get? place == some .directory then
      let joint := if destination.toList.getLast? == some '/' then "" else "/"
      destination ++ joint ++ baseName source
    else destination
  | .error _ => destination

/-- Whether two paths lead to the same thing. -/
def leadToSame (volume : Volume) (source target : String) : Bool :=
  match volume.locate source, volume.locate target with
  | .ok place, .ok other => place = other && (volume.get? place).isSome
  | _, _ => false

/-- The volume with a file copied. -/
def copyFile (volume : Volume) (source destination : String) : Except FileError Volume := do
  let target := volume.copyTarget source destination
  match (pathFault? source).or (pathFault? target) with
  | some error => throw error
  | none =>
    if volume.leadToSame source target then throw (.sameFile source target)
    let octets ← volume.readOctets source
    match volume.writeOctets target octets with
    | .error (.isDirectory path) =>
      match volume.locate target with
      | .ok place =>
        if (volume.get? place).isSome then throw (.isDirectory path)
        else throw (.noSuchDirectory target)
      | .error _ => throw (.noSuchDirectory target)
    | result => result

end TagOrder.Volume
