import Lexis.Dialect.Reading
import Lexis.Lexer
import Lexis.Listing
import Lexis.Log
import Lexis.Main
import Lexis.Report
import Lexis.Proofs.Session
import Lexis.Proofs.Walk
import Lexis.Proofs.Grammar
import Lexis.Proofs.Pieces
import Lexis.Proofs.Scanning
import Lexis.Proofs.Items
import Lexis.Proofs.Cutting
import Lexis.Proofs.Requests
import Lexis.Proofs.Lookahead
import Lexis.Proofs.Position
import Lexis.Proofs.Causes
import Lexis.Proofs.Yields
import Lexis.Proofs.Contexts
import Lexis.Proofs.Viability
import Lexis.Proofs.LineComposition
import Lexis.Proofs.Operators
import Lexis.Proofs.Magnitudes
import Lexis.Proofs.Nearest
import Lexis.Proofs.Numerals
import Lexis.Proofs.Spelling
import Lexis.Proofs.Stalling
import Lexis.Proofs.Peeking
import Lexis.Proofs.Correspondence
import Lexis.Proofs.Displacement
import Lexis.Proofs.Resumption
import Lexis.Proofs.Fusion
import Lexis.Proofs.Escapes
import Lexis.Proofs.Keywords
import Lexis.Proofs.Closing
import Lexis.Proofs.Writings
import Lexis.Proofs.NumberLiterals
import Lexis.Proofs.Strictness
import Lexis.Proofs.Extension
import Lexis.Proofs.Json.Grammar
import Lexis.Proofs.Json.Atoms
import Lexis.Proofs.Json.Phrases
import Lexis.Proofs.Json.Skipping
import Lexis.Proofs.Json.Writing
import Lexis.Proofs.Json.Reader
import Lexis.Proofs.Settings
import Lexis.Proofs.Overrides
import Lexis.Proofs.Interchange
import Lexis.Proofs.Listings
import Lexis.Proofs.TokenLines
import Lexis.Proofs.Places
import Lexis.Proofs.Rows
import Lexis.Proofs.Reports
import Lexis.Proofs.Commands
import Lexis.Proofs.Overflow
import Lexis.Proofs.Offsets
import Lexis.Proofs.OpenEnds
import Lexis.Proofs.ExtraDots
import Lexis.Proofs.Decoration
import Lexis.Proofs.PlaceOrder
import Lexis.Proofs.Progress
import Lexis.Proofs.LongestRuns
