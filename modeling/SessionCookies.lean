import SessionCookies.Handler.Script
import SessionCookies.Main
import SessionCookies.Proofs.Handler.Faults
import SessionCookies.Proofs.Handler.Fixation
import SessionCookies.Proofs.Handler.Logout
import SessionCookies.Proofs.Handler.Port
import SessionCookies.Proofs.Handler.Skipped
import SessionCookies.Proofs.Service.Logs
import SessionCookies.Proofs.Session.Atomic
import SessionCookies.Proofs.Session.History
import SessionCookies.Proofs.Session.Inserted
import SessionCookies.Proofs.Session.RoundTrip
import SessionCookies.Proofs.Settings.Lifetimes
import SessionCookies.Proofs.Signing.Acceptance
import SessionCookies.Proofs.Signing.Rotation
import SessionCookies.Proofs.Store.Cleanup
import SessionCookies.Proofs.Store.Eviction
import SessionCookies.Proofs.Store.Prefixes
import SessionCookies.Proofs.Store.Refinement
import SessionCookies.Proofs.Traffic.Revival
import SessionCookies.Proofs.Visit.Continuity
import SessionCookies.Settings.Given
