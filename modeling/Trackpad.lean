import Trackpad.Config.Reader
import Trackpad.Config.Writer
import Trackpad.Proofs.Account
import Trackpad.Proofs.Active
import Trackpad.Proofs.Baseline
import Trackpad.Proofs.Broken
import Trackpad.Proofs.Declined
import Trackpad.Proofs.Diagnostics
import Trackpad.Proofs.Fate
import Trackpad.Proofs.Motionless
import Trackpad.Proofs.Noted
import Trackpad.Proofs.Receivers
import Trackpad.Proofs.Recent
import Trackpad.Proofs.Registered
import Trackpad.Proofs.Reported
import Trackpad.Proofs.Reset
import Trackpad.Proofs.Shift
import Trackpad.Proofs.Totals
import Trackpad.Proofs.Zoom
import Trackpad.Recognizer.Attached
import Trackpad.Session
