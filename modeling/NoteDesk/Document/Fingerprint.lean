import NoteDesk.Note

/-!
# Fingerprints

An edit session saves a note only if its fingerprint changed. A fingerprint is a digest of the
title followed by the content that the session works on; digests of different texts are taken to
differ, so it is represented by the text it digests. A move to another notebook does not show.
-/

namespace NoteDesk

/-- The digest of a note's title and content. -/
structure Fingerprint where
  digested : String
  deriving DecidableEq, Repr

namespace Fingerprint

/-- The fingerprint of a note in a session that edits it `raw`, or as markdown. -/
def of (n : Note) (raw : Bool) : Fingerprint :=
  ⟨n.title ++ n.content raw⟩

/-- The two notes digested were different. -/
def changed (before after : Fingerprint) : Bool :=
  before != after

end Fingerprint
end NoteDesk
