import RpcDispatch.Error
import RpcDispatch.Source.Extract
import RpcDispatch.Source.Parameter
import RpcDispatch.Dispatch.Session
import RpcDispatch.Progress.CrashReport
import RpcDispatch.Settings.Schema
import RpcDispatch.Workspace.Document
import RpcDispatch.Project.Scan
import RpcDispatch.Command.Run
import RpcDispatch.Main
import RpcDispatch.Proofs.Lexing.Pieces
import RpcDispatch.Proofs.Lexing.Tokens
import RpcDispatch.Proofs.Lexing.LetterCase
import RpcDispatch.Proofs.Lexing.Prefixes
import RpcDispatch.Proofs.Lexing.LongestMatch
import RpcDispatch.Proofs.Lexing.Tokenization
import RpcDispatch.Proofs.Lexing.Trimming
import RpcDispatch.Proofs.Lexing.Lexemes
import RpcDispatch.Proofs.Lexing.Joining
import RpcDispatch.Proofs.Extraction.Reading
import RpcDispatch.Proofs.Extraction.Writing
import RpcDispatch.Proofs.Extraction.RoundTrip
import RpcDispatch.Proofs.Extraction.Relexing
import RpcDispatch.Proofs.Extraction.Visits
import RpcDispatch.Proofs.Extraction.Fronts
import RpcDispatch.Proofs.Extraction.Likeness
import RpcDispatch.Proofs.Extraction.AlikeParameters
import RpcDispatch.Proofs.Dispatch.Validation
import RpcDispatch.Proofs.Dispatch.FirstDefinition
import RpcDispatch.Proofs.Dispatch.FileOrder
import RpcDispatch.Proofs.Dispatch.AlikeTables
import RpcDispatch.Proofs.Dispatch.LetterCase
import RpcDispatch.Proofs.Dispatch.Layout
import RpcDispatch.Proofs.Lexing.Lines
import RpcDispatch.Proofs.Dispatch.Annotation
import RpcDispatch.Proofs.Project.PathTexts
import RpcDispatch.Proofs.Project.Sorting
import RpcDispatch.Proofs.Project.Trees
import RpcDispatch.Proofs.Project.Storing
import RpcDispatch.Proofs.Project.Keeping
import RpcDispatch.Proofs.Pattern.Matching
import RpcDispatch.Proofs.Pattern.Words
import RpcDispatch.Proofs.Project.Reserved
import RpcDispatch.Proofs.Project.Excluding
import RpcDispatch.Proofs.Project.Folding
import RpcDispatch.Proofs.Project.Walking
import RpcDispatch.Proofs.Project.Finding
import RpcDispatch.Proofs.Project.Listing
import RpcDispatch.Proofs.Project.SamePaths
import RpcDispatch.Proofs.Command.Locating
import RpcDispatch.Proofs.Command.Making
import RpcDispatch.Proofs.Command.Regeneration
import RpcDispatch.Proofs.Command.Unread
import RpcDispatch.Proofs.Command.Delivering
import RpcDispatch.Proofs.Dispatch.Bodies
import RpcDispatch.Proofs.Unicode.WordCharacters
import RpcDispatch.Proofs.Workspace.Entities
import RpcDispatch.Proofs.Workspace.Marks
import RpcDispatch.Proofs.Workspace.Drafts
import RpcDispatch.Proofs.Workspace.OnePass
import RpcDispatch.Proofs.Lexing.Characters
import RpcDispatch.Proofs.Extraction.Characters
import RpcDispatch.Proofs.Dispatch.Entries
import RpcDispatch.Proofs.Dispatch.Characters
import RpcDispatch.Proofs.Project.Showing
import RpcDispatch.Proofs.Project.Auditing
import RpcDispatch.Proofs.Lexing.Blocks
import RpcDispatch.Proofs.Extraction.Nesting
import RpcDispatch.Proofs.Dispatch.Blocks
import RpcDispatch.Proofs.Dispatch.Branches
import RpcDispatch.Proofs.Dispatch.WellFormed
import RpcDispatch.Proofs.Dispatch.Marshalling
import RpcDispatch.Proofs.Extraction.Closing
import RpcDispatch.Proofs.Extraction.Grammar
import RpcDispatch.Proofs.Extraction.ParameterShapes
import RpcDispatch.Proofs.Extraction.ParameterRoundTrip
import RpcDispatch.Proofs.Lexing.Slices
import RpcDispatch.Proofs.Extraction.Locations
import RpcDispatch.Proofs.Extraction.Offsets
import RpcDispatch.Proofs.Extraction.Moving
import RpcDispatch.Proofs.Extraction.Restarting
import RpcDispatch.Proofs.Extraction.Lookups
import RpcDispatch.Proofs.Extraction.ParameterLookups
import RpcDispatch.Proofs.Extraction.Spans
import RpcDispatch.Proofs.Progress.Guards
import RpcDispatch.Proofs.Progress.Scanning
import RpcDispatch.Proofs.Extraction.Failures
import RpcDispatch.Proofs.Extraction.Enclosed
import RpcDispatch.Proofs.Extraction.Order
