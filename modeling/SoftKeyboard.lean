import SoftKeyboard.Settings.Store
import SoftKeyboard.Layout.Directory
import SoftKeyboard.Machine.Basic
import SoftKeyboard.Machine.Rules
import SoftKeyboard.Main
import SoftKeyboard.Proofs.Keyboard.Exclusion
import SoftKeyboard.Proofs.Keyboard.Loading
import SoftKeyboard.Proofs.Machine.Tracking
import SoftKeyboard.Proofs.Keyboard.Synchrony
import SoftKeyboard.Proofs.Keyboard.DoubleTap
import SoftKeyboard.Proofs.Keyboard.Delivery
import SoftKeyboard.Proofs.Keyboard.Reload
import SoftKeyboard.Proofs.Keyboard.Caching
import SoftKeyboard.Proofs.Keyboard.Freshness
import SoftKeyboard.Proofs.Keyboard.Availability
import SoftKeyboard.Proofs.Keyboard.Restoration
import SoftKeyboard.Proofs.Keyboard.Toggling
import SoftKeyboard.Proofs.Keyboard.Theming
import SoftKeyboard.Proofs.Keyboard.EmojiPanel
import SoftKeyboard.Proofs.Keyboard.Determination
import SoftKeyboard.Proofs.Keyboard.Economy
import SoftKeyboard.Proofs.Keyboard.FailedBuilds
import SoftKeyboard.Proofs.Keyboard.Snapshots
import SoftKeyboard.Proofs.Keyboard.Presentations
import SoftKeyboard.Proofs.Keyboard.TapParity
import SoftKeyboard.Proofs.Keyboard.ShiftLock
import SoftKeyboard.Proofs.Session.Queue
import SoftKeyboard.Proofs.Layout.Resolution
import SoftKeyboard.Proofs.Layout.Directory
import SoftKeyboard.Proofs.Layout.Assembly
import SoftKeyboard.Proofs.Locale.LastLocale
import SoftKeyboard.Proofs.Settings.RoundTrip
import SoftKeyboard.Proofs.Settings.Partial
import SoftKeyboard.Proofs.Surface.Spacebar
import SoftKeyboard.Proofs.Dispatcher.Timer
import SoftKeyboard.Proofs.Settings.Saving
import SoftKeyboard.Proofs.Numeric.Rounding
import SoftKeyboard.Proofs.Numeric.Shortest
import SoftKeyboard.Proofs.Numeric.Scaling
import SoftKeyboard.Proofs.Numeric.Separation
import SoftKeyboard.Proofs.Numeric.ReadBack
