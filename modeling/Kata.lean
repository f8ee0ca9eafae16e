import Kata.Main
import Kata.Proofs.Program.Definitions
import Kata.Proofs.Run.Streaming
import Kata.Proofs.Template.Detected
import Kata.Proofs.Value.RoundTrip
import Kata.Proofs.Detection.Enclosures
import Kata.Proofs.Literal.Quoted
import Kata.Proofs.Schema.Stored
import Kata.Proofs.Literal.Untyped
import Kata.Proofs.Literal.Structures
import Kata.Proofs.Program.Order
import Kata.Proofs.Program.Mains
import Kata.Proofs.Prototype.Brackets
import Kata.Proofs.Prototype.Heads
import Kata.Proofs.Prototype.Parameters
import Kata.Proofs.Template.Parameters
import Kata.Proofs.Prototype.Written
import Kata.Proofs.Template.Readable
import Kata.Proofs.Run.Grading
import Kata.Proofs.Run.Secrets
import Kata.Proofs.Detection.Choice
import Kata.Proofs.Detection.Reserved
import Kata.Proofs.Prototype.RoundTrip
import Kata.Proofs.Prototype.Unnamed
import Kata.Proofs.Program.PublicTypes
import Kata.Proofs.Source.Bare
import Kata.Proofs.Source.LineFeeds
import Kata.Proofs.Schema.Names
import Kata.Proofs.Program.Surroundings
import Kata.Proofs.Value.Integers
import Kata.Proofs.Value.IntegerLists
import Kata.Proofs.Literal.Widths
import Kata.Proofs.Json.Extension
import Kata.Proofs.Problem.Shapes
import Kata.Proofs.Settings.Delays
import Kata.Proofs.Source.Braces
import Kata.Proofs.Source.Indents
import Kata.Proofs.Prototype.Depth
import Kata.Proofs.Detection.Order
import Kata.Proofs.Name.Words
