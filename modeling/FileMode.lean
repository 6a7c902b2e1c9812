import FileMode.Main
import FileMode.Proofs.DigitOverrides
import FileMode.Proofs.Digital
import FileMode.Proofs.DigitalCodec
import FileMode.Proofs.Display
import FileMode.Proofs.FieldByField
import FileMode.Proofs.LoadingFaults
import FileMode.Proofs.MaskingChains
import FileMode.Proofs.PairedPrograms
import FileMode.Proofs.RefusedTexts
import FileMode.Proofs.ShownModes
import FileMode.Proofs.ValidatedSettings
import FileMode.Session
import FileMode.Triad.Program
