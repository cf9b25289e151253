import ImageIntake.Store.Program
import ImageIntake.Store.Shelf

namespace ImageIntake

structure Memory where
  objects : Shelf StoredObject := .empty
  failingSuffix : Option String := none
  deletesFail : Bool := false
  bytesServed : UInt64 := 0
  deriving Inhabited

namespace Memory

def empty : Memory := {}

def upload (m : Memory) (key : String) (body : ByteArray) (contentType : String) : Memory :=
  { m with objects := m.objects.insert key ⟨body, ⟨contentType, none⟩⟩ }

def failPutsEndingWith (m : Memory) (suffix : String) : Memory :=
  { m with failingSuffix := some suffix }

def setDeletesFail (m : Memory) (fail : Bool) : Memory :=
  { m with deletesFail := fail }

def refusesPut (m : Memory) (key : String) : Bool :=
  match m.failingSuffix with
  | none => false
  | some suffix => suffix.toList.isSuffixOf key.toList

def getObject (m : Memory) (key : String) (limit : Nat) : Answer ByteArray × Memory :=
  match m.objects.find? key with
  | none => (.error (.notFound key), m)
  | some object =>
      if limit < object.body.size then (.error (.tooLarge key limit), m)
      else (.ok object.body, { m with bytesServed := m.bytesServed + .ofNat object.body.size })

def putObject (m : Memory) (w : Write) : Answer Unit × Memory :=
  if m.refusesPut w.key then (.error (.serverFault ("injected put failure: " ++ w.key)), m)
  else (.ok (), { m with objects := m.objects.insert w.key w.object })

def deleteObject (m : Memory) (key : String) : Answer Unit × Memory :=
  if m.deletesFail then (.error (.serverFault ("injected delete failure: " ++ key)), m)
  else (.ok (), { m with objects := m.objects.erase key })

def presignUpload (key contentType : String) (lifetime : Span) : Answer String :=
  if lifetime.nanos = 0 then .error (.configuration "presigned URL expiry must be positive")
  else .ok ("memory://uploads/" ++ key ++ "?content-type=" ++ contentType ++ "&expires-in=" ++
    toString lifetime.seconds)

instance : ObjectStore Memory where
  get key limit m := m.getObject key limit
  put w m := m.putObject w
  delete key m := m.deleteObject key
  presign key contentType lifetime m := (presignUpload key contentType lifetime, m)

end Memory

end ImageIntake
