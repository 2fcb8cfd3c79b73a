import Lexing.Proofs.Offset
import Lexing.Proofs.Stage
import Lexing.Regex.Reader
import Lexing.Session.Program
import Lexing.Proofs.Motion
import Lexing.Proofs.Range
import Lexing.Proofs.Checked
import Lexing.Proofs.Inside
import Lexing.Proofs.Rounds
import Lexing.Proofs.SubView
import Lexing.Proofs.ByCode
import Lexing.Proofs.Failed
import Lexing.Proofs.Account
import Lexing.Proofs.InForce
import Lexing.Proofs.Captured
import Lexing.Proofs.Closing
import Lexing.Proofs.Reading
import Lexing.Proofs.Interleaved
import Lexing.Proofs.Telling
import Lexing.Proofs.Transcript
import Lexing.Proofs.Taking
import Lexing.Proofs.Escaping
import Lexing.Proofs.Longer
import Lexing.Proofs.Repeated
import Lexing.Proofs.Maximal
import Lexing.Proofs.Finding
import Lexing.Proofs.Wrapped
import Lexing.Proofs.Draining
import Lexing.Proofs.Progress
import Lexing.Proofs.Replay
import Lexing.Proofs.Meaning
import Lexing.Proofs.Current
