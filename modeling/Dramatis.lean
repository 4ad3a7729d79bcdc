import Dramatis.Direction
import Dramatis.Json.Format
import Dramatis.Rehearsal
import Dramatis.TypeScript
import Dramatis.Proofs.Name.Words
import Dramatis.Proofs.Name.Normal
import Dramatis.Proofs.Name.Caseless
import Dramatis.Proofs.Name.Canonical
import Dramatis.Proofs.Name.Separated
import Dramatis.Proofs.Cast.Assembly
import Dramatis.Proofs.Cast.Calls
import Dramatis.Proofs.Cast.Duplicate
import Dramatis.Proofs.Cast.Lookup
import Dramatis.Proofs.Cast.OwnName
import Dramatis.Proofs.Cast.Caseless
import Dramatis.Proofs.Cast.Reordered
import Dramatis.Proofs.Cast.Extended
import Dramatis.Proofs.Positions
import Dramatis.Proofs.Stage.Group
import Dramatis.Proofs.Stage.Effects
import Dramatis.Proofs.Stage.Bounds
import Dramatis.Proofs.Stage.InTurn
import Dramatis.Proofs.Stage.Declared
import Dramatis.Proofs.Stage.Run
import Dramatis.Proofs.Stage.Shift
import Dramatis.Proofs.Stage.Return
import Dramatis.Proofs.Stage.Assertions
import Dramatis.Proofs.Stage.AnyOrder
import Dramatis.Proofs.Stage.Failure
import Dramatis.Proofs.Stage.History
import Dramatis.Proofs.Stage.Exchange
import Dramatis.Proofs.Stage.Pronoun
import Dramatis.Proofs.Stage.Views
import Dramatis.Proofs.Stage.Dump
import Dramatis.Proofs.Stage.Keys
import Dramatis.Proofs.Stage.Congruent
import Dramatis.Proofs.Stage.Parallel
import Dramatis.Proofs.Stage.Reordered
import Dramatis.Proofs.Stage.DeclarationOrder
import Dramatis.Proofs.Stage.Counterpart
import Dramatis.Proofs.Stage.Account
import Dramatis.Proofs.Stage.Offender
import Dramatis.Proofs.Stage.Reported
import Dramatis.Proofs.Stage.Replay
import Dramatis.Proofs.Stage.StoredCast
import Dramatis.Proofs.Json.Quoted
import Dramatis.Proofs.Json.Lexeme
import Dramatis.Proofs.Json.Parse
import Dramatis.Proofs.Json.Grammar
import Dramatis.Proofs.Json.RoundTrip
import Dramatis.Proofs.Json.Record
import Dramatis.Proofs.Json.Format
import Dramatis.Proofs.Json.ArrayForm
import Dramatis.Proofs.Json.Object
import Dramatis.Proofs.Json.WholeNumber
