import LayerCull.LayerId

/-!
This module contains the reading of the server's error texts: which layer makes the capabilities
document fail, and which layer group holds a layer that could not be deleted.
-/

namespace LayerCull

namespace Text

/-- The needle stands somewhere in the text. -/
def occursIn (needle : List Char) : List Char → Bool
  | [] => needle.isEmpty
  | c :: cs => needle.isPrefixOf (c :: cs) || occursIn needle cs

end Text

/-- The phrase by which the server reports a fault. -/
inductive Marker where
  /-- A layer's metadata could not be written into the capabilities document. -/
  | metadataFailure
  /-- A layer could not be deleted because a layer group refers to it. -/
  | groupReference
  deriving DecidableEq, Repr

namespace Marker

def phrase : Marker → String
  | .metadataFailure => "Error occurred trying to write out metadata for layer:"
  | .groupReference => "Unable to delete layer referenced by layer group"

def isIn (m : Marker) (text : String) : Bool :=
  Text.occursIn m.phrase.toList text.toList

/-- The identifier that a text with the marker names: its leftmost one. -/
def subject? (m : Marker) (text : String) : Option LayerId :=
  if m.isIn text then LayerId.first? text else none

end Marker

/-- The layer that makes a capabilities document fail. -/
def badLayer? (capabilities : String) : Option LayerId :=
  Marker.metadataFailure.subject? capabilities

def isGroupReferenceError (body : String) : Bool :=
  Marker.groupReference.isIn body

/-- The layer group that keeps a layer from being deleted. -/
def holdingGroup? (body : String) : Option LayerId :=
  Marker.groupReference.subject? body

end LayerCull
