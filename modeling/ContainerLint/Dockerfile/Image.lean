/-
Image references such as `registry:5000/team/app:1.2@sha256:…`. A colon after the
last slash starts the tag; a colon in the first of several path segments belongs
to the registry's port, so a registry with a port and no tag is read right.
-/
import ContainerLint.Text.Case
import ContainerLint.Text.Cut

namespace ContainerLint.Dockerfile

open ContainerLint.Text

/-- The base image of a build stage. -/
structure Image where
  /-- The reference without tag and digest. -/
  image : String
  /-- What follows the tag colon. -/
  tag : Option String := none
  /-- What follows the first `@`. -/
  digest : Option String := none
  /-- The name that the build stage is given. -/
  stage : Option String := none
  /-- The platform asked for. -/
  platform : Option String := none
  /-- The first path segment, where it names a host. -/
  registry : Option String := none
  deriving Repr, DecidableEq

namespace Image

/-- A text, or nothing where it is empty. -/
def nonEmpty (cs : List Char) : Option String :=
  if cs.isEmpty then none else some (String.ofList cs)

/-- The part before the first `@` and the part after it. -/
def cutDigest (cs : List Char) : List Char × List Char :=
  (cutAt '@' cs).getD (cs, [])

/-- The part before the tag colon and the tag. The last colon is a tag colon exactly
when no slash follows it. -/
def cutTag (cs : List Char) : List Char × List Char :=
  match cutAtLast ':' cs with
  | some (front, back) => if back.contains '/' then (cs, []) else (front, back)
  | none => (cs, [])

/-- A first path segment that names a host: it has a dot or a port, or is the local
host. -/
def namesHost (segment : List Char) : Bool :=
  segment.contains '.' || segment.contains ':' || segment == "localhost".toList

/-- The registry of a reference without tag and digest. -/
def registryOf (cs : List Char) : Option String :=
  match cutAt '/' cs with
  | some (first, _) => if namesHost first then some (String.ofList first) else none
  | none => none

/-- The components of an image reference. -/
def ofReference (reference : String) (stage platform : Option String) : Image :=
  let (front, digest) := cutDigest reference.toList
  let (image, tag) := cutTag front
  { image := String.ofList image
    tag := nonEmpty tag
    digest := nonEmpty digest
    stage := stage
    platform := platform
    registry := registryOf image }

/-- The image's name without its registry. -/
def name (i : Image) : String :=
  match i.registry with
  | some r =>
    if !r.isEmpty && startsWith i.image (r ++ "/") then
      String.ofList (i.image.toList.drop (r.length + 1))
    else i.image
  | none => i.image

/-- The empty base image. -/
def isScratch (i : Image) : Bool :=
  lower i.image == "scratch"

/-- A reference that a build variable starts. -/
def isVariable (i : Image) : Bool :=
  startsWith i.image "$"

/-- A tag or a digest is given. -/
def hasVersion (i : Image) : Bool :=
  i.tag.isSome || i.digest.isSome

end Image

end ContainerLint.Dockerfile
