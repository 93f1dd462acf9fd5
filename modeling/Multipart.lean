import Multipart.Describe
import Multipart.Json.Values
import Multipart.Rehearsal.Play
import Multipart.Service
import Multipart.Proofs.Pausing
import Multipart.Proofs.Completing
import Multipart.Proofs.Storing
import Multipart.Proofs.Resuming
import Multipart.Proofs.Upload.Forgetting
import Multipart.Proofs.Refusing
import Multipart.Proofs.Parking
import Multipart.Proofs.Aborting
import Multipart.Proofs.Settling
import Multipart.Proofs.Sending
import Multipart.Proofs.Waiting
import Multipart.Proofs.Counting
import Multipart.Proofs.Echoing
import Multipart.Proofs.Cutting
import Multipart.Proofs.Demanding
import Multipart.Proofs.Limiting
import Multipart.Proofs.Json.Values
import Multipart.Proofs.Paging
import Multipart.Proofs.Isolating
import Multipart.Proofs.Assembling
import Multipart.Proofs.Overflowing
import Multipart.Proofs.Location
import Multipart.Proofs.Returning
import Multipart.Proofs.Booking
