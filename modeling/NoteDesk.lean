import NoteDesk.Document
import NoteDesk.Document.Fingerprint
import NoteDesk.Envelope
import NoteDesk.Markup
import NoteDesk.Cache
import NoteDesk.Config
import NoteDesk.Desk
import NoteDesk.Desk.Command
import NoteDesk.Editor.Script
import NoteDesk.Listing
import NoteDesk.Proofs.Bound
import NoteDesk.Proofs.Changes
import NoteDesk.Proofs.Edits
import NoteDesk.Proofs.Metadata
import NoteDesk.Proofs.Recovery
import NoteDesk.Proofs.Untouched
import NoteDesk.Proofs.Grammar
import NoteDesk.Proofs.Holding
import NoteDesk.Proofs.RoundTrip
import NoteDesk.Proofs.Agreement
import NoteDesk.Proofs.Refinement
import NoteDesk.Proofs.Reopen
import NoteDesk.Proofs.Sealed
import NoteDesk.Proofs.ContentEdit
import NoteDesk.Proofs.OtherMode
import NoteDesk.Proofs.Tools
import NoteDesk.Proofs.Twin
import NoteDesk.Proofs.Interchange
import NoteDesk.Proofs.Cleanup
import NoteDesk.Proofs.Numbers
import NoteDesk.Proofs.FailedListing
import NoteDesk.Proofs.Calls
import NoteDesk.Proofs.Newest
import NoteDesk.Proofs.Integrity
import NoteDesk.Proofs.Notebooks
import NoteDesk.Proofs.Titles
import NoteDesk.Proofs.Lasting
import NoteDesk.Proofs.Creation
import NoteDesk.Proofs.Envelope
import NoteDesk.Proofs.Escape
import NoteDesk.Proofs.Draft
import NoteDesk.Proofs.Tidy
import NoteDesk.Proofs.Span
import NoteDesk.Proofs.Block
import NoteDesk.Proofs.Checklist
import NoteDesk.Proofs.CodeBlock
import NoteDesk.Proofs.SoftBreak
import NoteDesk.Proofs.LineEnding
import NoteDesk.Proofs.Undecodable
import NoteDesk.Proofs.Stable
import NoteDesk.Proofs.Columns
import NoteDesk.Proofs.Spelling
import NoteDesk.Proofs.Config
import NoteDesk.Proofs.Converted
import NoteDesk.Proofs.History
import NoteDesk.Proofs.Interleaving
