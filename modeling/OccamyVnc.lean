import OccamyVnc.Machine
import OccamyVnc.PixelFormat
import OccamyVnc.FramePacing
import OccamyVnc.Translate
import OccamyVnc.Connect
import OccamyVnc.Display
import OccamyVnc.Update
import OccamyVnc.Session
import OccamyVnc.SessionSafety
import OccamyVnc.ThreadPhases
import OccamyVnc.SharedDisplay
import OccamyVnc.Lifecycle
